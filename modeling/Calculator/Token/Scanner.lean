import Calculator.Token.Lexer

namespace Calculator

/-- Reads one line after the other. The token read last tells whether a sign that comes up has an
operand in front of it. -/
structure Scanner where
  last : Option Token := none
  deriving DecidableEq, Repr

namespace Scanner

def afterOperand (s : Scanner) : Bool :=
  match s.last with
  | some t => t.endsOperand
  | none => false

def read (s : Scanner) : List Lexeme → Except LexError (List Token) × Scanner
  | [] => (.ok [], s)
  | l :: ls =>
    match l.token s.afterOperand with
    | .error e => (.error e, s)
    | .ok t =>
      let r := read { s with last := some t } ls
      (r.1.map (t :: ·), r.2)

def tokenize (s : Scanner) (line : String) : Except LexError (List Token) × Scanner :=
  { s with last := none }.read (Lexeme.ofText (Text.squeeze line.toList))

theorem read_fst (s : Scanner) (ls : List Lexeme) :
    (s.read ls).1 = Lexeme.tokens s.afterOperand ls := by
  induction ls generalizing s with
  | nil => rfl
  | cons l ls ih =>
    rw [read, Lexeme.tokens]
    cases l.token s.afterOperand with
    | error e => rfl
    | ok t =>
      have h : (read { s with last := some t } ls).1 = Lexeme.tokens t.endsOperand ls := ih _
      change (read { s with last := some t } ls).1.map (t :: ·) =
        Lexeme.tokens t.endsOperand ls >>= fun ts ↦ pure (t :: ts)
      rw [h]
      cases Lexeme.tokens t.endsOperand ls <;> rfl

theorem tokenize_fst (s : Scanner) (line : String) :
    (s.tokenize line).1 = Calculator.tokenize line := read_fst { s with last := none } _

end Scanner

end Calculator
