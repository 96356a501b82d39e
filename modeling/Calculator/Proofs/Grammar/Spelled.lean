import Calculator.Proofs.Grammar.Ambiguity
import Calculator.Proofs.Token.Denotation

namespace Calculator

theorem Reads.after {p : Part} {w : List Token} {e : Expr} (h : Reads .tokens p w e) (b : Bool) :
    Token.after b w = true := by
  induction h generalizing b with
  | num hw | var hw => cases hw; rfl
  | parens hw ih => exact Token.after_append _ _ _
  | atom hw ih | power hw ih | factor hw ih | term hw ih => exact ih b
  | sign hop hw ih => exact ih false
  | pow ha hb iha ihb | mul hop ha hb iha ihb | add hop ha hb iha ihb =>
    rw [Token.after_append]
    exact ihb false

namespace Op

theorem isAlphanum_symbol (op : Op) : op.symbol.isAlphanum = false := by
  cases op <;> rfl

theorem token_single_symbol (op : Op) :
    (Lexeme.single op.symbol).token true = .ok (.binary op) := by
  cases op <;> rfl

theorem token_single_sign {op : Op} (h : op.Additive) :
    (Lexeme.single op.symbol).token false = .ok (.unary op) := by
  rcases h with rfl | rfl <;> rfl

end Op

namespace Lexeme

theorem tokens_run_digits {cs : List Char} (hne : cs ≠ []) (h : ∀ c ∈ cs, c.isDigit = true)
    (b : Bool) : tokens b [run cs] = .ok [.num (Nat.ofDigitChars 10 cs 0)] := by
  have ht : (run cs).token b = .ok (.num (decimal cs)) := (token_run_iff hne).2 (.number h)
  rw [ofDigitChars_eq_decimal]
  exact tokens_cons_of_token ht []

theorem tokens_run_letters {cs : List Char} (h : isIdentifier cs = true) (b : Bool) :
    tokens b [run cs] = .ok [.var (String.ofList cs)] := by
  obtain ⟨hne, hl⟩ := isIdentifier_iff.1 h
  have ht : (run cs).token b = .ok (.var (String.ofList cs)) := (token_run_iff hne).2 (.name hl)
  exact tokens_cons_of_token ht []

theorem tokens_pieces_binary {p : Part} {v w : List Char} {ts us : List Token} {a : Expr}
    (op : Op) (hv : tokens false (pieces v) = .ok ts) (ha : Reads .tokens p ts a)
    (hw : tokens false (pieces w) = .ok us) :
    tokens false (pieces (v ++ op.symbol :: w)) = .ok (ts ++ .binary op :: us) := by
  rw [pieces_append op.isAlphanum_symbol]
  refine tokens_append hv ?_
  rw [ha.after, tokens_cons_of_token op.token_single_symbol]
  change (tokens false (pieces w)).map _ = _
  rw [hw]
  rfl

end Lexeme

open Lexeme

theorem Reads.pieces {p : Part} {w : List Char} {e : Expr} (h : Reads .characters p w e) :
    ∃ ts, tokens false (Lexeme.pieces w) = .ok ts ∧ Reads .tokens p ts e := by
  induction h with
  | @num w n hw =>
    obtain ⟨m, hm, rfl⟩ := Option.map_eq_some_iff.1 hw
    obtain ⟨hne, hd, rfl⟩ := readNat?_eq_some_iff.1 hm
    refine ⟨_, ?_, .num rfl⟩
    rw [pieces_run hne fun c hc ↦ isAlphanum_of_isDigit (hd c hc), tokens_run_digits hne hd]
    rfl
  | @var w name hw =>
    obtain ⟨hi, rfl⟩ := hw
    obtain ⟨hne, hl⟩ := isIdentifier_iff.1 hi
    refine ⟨_, ?_, .var rfl⟩
    rw [pieces_run hne fun c hc ↦ isAlphanum_of_isAlpha (hl c hc), tokens_run_letters hi]
  | @parens w e hw ih =>
    obtain ⟨ts, ht, hr⟩ := ih
    refine ⟨_, ?_, .parens hr⟩
    have hl : (single '(').token false = .ok .lparen := rfl
    have hp : tokens false (Lexeme.pieces (w ++ [')'])) = .ok (ts ++ [.rparen]) := by
      rw [pieces_append rfl]
      refine tokens_append ht ?_
      rw [hr.after]
      rfl
    change tokens false (Lexeme.pieces ('(' :: (w ++ [')']))) = _
    rw [pieces_cons_of_not_alphanum rfl, tokens_cons_of_token hl]
    change (tokens false (Lexeme.pieces (w ++ [')']))).map _ = _
    rw [hp]
    rfl
  | atom hw ih => exact ih.imp fun _ h ↦ ⟨h.1, .atom h.2⟩
  | pow ha hb iha ihb =>
    obtain ⟨ts, ht, hr⟩ := iha
    obtain ⟨us, hu, hs⟩ := ihb
    exact ⟨_, tokens_pieces_binary .pow ht hr hu, .pow hr hs⟩
  | power hw ih => exact ih.imp fun _ h ↦ ⟨h.1, .power h.2⟩
  | @sign op w e hop hw ih =>
    obtain ⟨ts, ht, hr⟩ := ih
    refine ⟨_, ?_, .sign hop hr⟩
    rw [Spelling.characters_sign, pieces_cons_of_not_alphanum op.isAlphanum_symbol,
      tokens_cons_of_token (Op.token_single_sign hop)]
    change (tokens false (Lexeme.pieces w)).map _ = _
    rw [ht]
    rfl
  | factor hw ih => exact ih.imp fun _ h ↦ ⟨h.1, .factor h.2⟩
  | mul hop ha hb iha ihb =>
    obtain ⟨ts, ht, hr⟩ := iha
    obtain ⟨us, hu, hs⟩ := ihb
    exact ⟨_, tokens_pieces_binary _ ht hr hu, .mul hop hr hs⟩
  | term hw ih => exact ih.imp fun _ h ↦ ⟨h.1, .term h.2⟩
  | add hop ha hb iha ihb =>
    obtain ⟨ts, ht, hr⟩ := iha
    obtain ⟨us, hu, hs⟩ := ihb
    exact ⟨_, tokens_pieces_binary _ ht hr hu, .add hop hr hs⟩

theorem Reads.tree_unique_of_characters {w : List Char} {a b : Expr}
    (ha : Reads .characters .sum w a) (hb : Reads .characters .sum w b) : a = b := by
  obtain ⟨ts, ht, hr⟩ := ha.pieces
  obtain ⟨us, hu, hs⟩ := hb.pieces
  cases ht.symm.trans hu
  exact hr.tree_unique hs

/-- The tokens of an expression form one as well. It need not stand for the same tree, since runs
of signs have been collapsed, but has the same names and the same value. -/
theorem tokenize_of_reads {line : String} {e : Expr}
    (h : Reads .characters .sum (Text.squeeze line.toList) e) :
    ∃ ts e', tokenize line = .ok ts ∧ Reads .tokens .sum ts e' ∧ e.Agrees e' := by
  obtain ⟨ts, ht, hr⟩ := h.pieces
  obtain ⟨e', hr', ha⟩ := hr.collapse
  refine ⟨Token.collapse ts, e', ?_, hr', ha⟩
  rw [tokenize, tokens_ofText, ht]
  rfl

end Calculator
