import Calculator.Text.Blank
import Calculator.Token

namespace Calculator

/-- The smallest parts of a text without blanks: a run of letters and digits, a run of signs, or
any other character by itself. -/
inductive Lexeme
  | run (cs : List Char)
  | signs (cs : List Char)
  | mark (c : Char)
  deriving DecidableEq, Repr

inductive LexError
  | invalidCharacter (c : Char)
  deriving DecidableEq, Repr

def isSign (c : Char) : Bool := c == '+' || c == '-'

theorem isSign_iff {c : Char} : isSign c = true ↔ c = '+' ∨ c = '-' := by
  simp [isSign]

theorem Op.isBlank_symbol (op : Op) : Text.isBlank op.symbol = false := by
  cases op <;> decide

namespace Lexeme

def text : Lexeme → List Char
  | run cs => cs
  | signs cs => cs
  | mark c => [c]

def cons (c : Char) (ls : List Lexeme) : List Lexeme :=
  if c.isAlphanum then
    match ls with
    | run cs :: ls => run (c :: cs) :: ls
    | ls => run [c] :: ls
  else if isSign c then
    match ls with
    | signs cs :: ls => signs (c :: cs) :: ls
    | ls => signs [c] :: ls
  else mark c :: ls

def ofText (cs : List Char) : List Lexeme := cs.foldr cons []

/-- A run of signs amounts to a minus if it holds an odd number of them. -/
def sign (cs : List Char) : Op := if cs.count '-' % 2 = 1 then .sub else .add

def token (afterOperand : Bool) : Lexeme → Except LexError Token
  | run cs =>
    .ok <|
      if cs.all Char.isAlpha then .var (String.ofList cs)
      else if cs.all Char.isDigit then .num (Nat.ofDigitChars 10 cs 0)
      else .word (String.ofList cs)
  | signs cs => .ok <| if afterOperand then .binary (sign cs) else .unary (sign cs)
  | mark '*' => .ok (.binary .mul)
  | mark '/' => .ok (.binary .div)
  | mark '^' => .ok (.binary .pow)
  | mark '(' => .ok .lparen
  | mark ')' => .ok .rparen
  | mark c => .error (.invalidCharacter c)

def tokens (afterOperand : Bool) : List Lexeme → Except LexError (List Token)
  | [] => .ok []
  | l :: ls => do
    let t ← l.token afterOperand
    let ts ← tokens t.endsOperand ls
    return t :: ts

theorem flatMap_text_cons (c : Char) (ls : List Lexeme) :
    (cons c ls).flatMap text = c :: ls.flatMap text := by
  unfold cons
  split
  · split <;> simp [text]
  · split
    · split <;> simp [text]
    · simp [text]

theorem flatMap_text_ofText (cs : List Char) : (ofText cs).flatMap text = cs := by
  induction cs with
  | nil => rfl
  | cons c cs ih => rw [ofText, List.foldr_cons, flatMap_text_cons, ← ofText, ih]

end Lexeme

/-- The tokens of a line. Its blanks count for nothing, not even between two digits. -/
def tokenize (line : String) : Except LexError (List Token) :=
  Lexeme.tokens false (Lexeme.ofText (Text.squeeze line.toList))

end Calculator
