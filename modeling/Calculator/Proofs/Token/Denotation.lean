import Calculator.Proofs.Numeral
import Calculator.Proofs.Token.Pieces
import Calculator.Token.Scanner

namespace Calculator

def isLegal (c : Char) : Bool :=
  c.isAlpha || c.isDigit || ['+', '-', '*', '/', '^', '(', ')'].contains c

theorem isLegal_of_isAlphanum {c : Char} (h : c.isAlphanum = true) : isLegal c = true := by
  rcases isAlphanum_iff.1 h with h | h <;> simp [isLegal, h]

theorem isLegal_of_isSign {c : Char} (h : isSign c = true) : isLegal c = true := by
  rcases isSign_iff.1 h with rfl | rfl <;> rfl

theorem find?_eq_none_of_isLegal {cs : List Char} (h : ∀ c ∈ cs, isLegal c = true) :
    cs.find? (!isLegal ·) = none := by
  simpa using h

namespace Lexeme

def endsOperand : Lexeme → Bool
  | run _ => true
  | signs _ => false
  | mark c => c == ')'

/-- The sign that a run of signs amounts to, by the parity of its minuses. -/
def Amounts (cs : List Char) (op : Op) : Prop :=
  (op = .sub ∧ cs.count '-' % 2 = 1) ∨ (op = .add ∧ cs.count '-' % 2 = 0)

/-- The token that a lexeme stands for, given whether an operand ends in front of it. -/
inductive Denotes : Bool → Lexeme → Token → Prop
  | name {b : Bool} {cs : List Char} :
      (∀ c ∈ cs, c.isAlpha = true) → Denotes b (run cs) (.var (String.ofList cs))
  | number {b : Bool} {cs : List Char} :
      (∀ c ∈ cs, c.isDigit = true) → Denotes b (run cs) (.num (decimal cs))
  | word {b : Bool} {cs : List Char} :
      (∃ c ∈ cs, c.isAlpha = false) → (∃ c ∈ cs, c.isDigit = false) →
        Denotes b (run cs) (.word (String.ofList cs))
  | binarySign {cs : List Char} {op : Op} : Amounts cs op → Denotes true (signs cs) (.binary op)
  | unarySign {cs : List Char} {op : Op} : Amounts cs op → Denotes false (signs cs) (.unary op)
  | product {b : Bool} : Denotes b (mark '*') (.binary .mul)
  | quotient {b : Bool} : Denotes b (mark '/') (.binary .div)
  | power {b : Bool} : Denotes b (mark '^') (.binary .pow)
  | opening {b : Bool} : Denotes b (mark '(') .lparen
  | closing {b : Bool} : Denotes b (mark ')') .rparen

inductive DenotesEach : Bool → List Lexeme → List Token → Prop
  | nil {b : Bool} : DenotesEach b [] []
  | cons {b : Bool} {l : Lexeme} {t : Token} {ls : List Lexeme} {ts : List Token} :
      Denotes b l t → DenotesEach l.endsOperand ls ts → DenotesEach b (l :: ls) (t :: ts)

variable {b : Bool} {l : Lexeme} {t : Token} {ls : List Lexeme} {ts : List Token}

theorem amounts_iff {cs : List Char} {op : Op} : Amounts cs op ↔ sign cs = op := by
  unfold Amounts sign
  split
  · next h => simp [h, eq_comm]
  · next h =>
    have h : cs.count '-' % 2 = 0 := by omega
    simp [h, eq_comm]

theorem Amounts.additive {cs : List Char} {op : Op} (h : Amounts cs op) : op.Additive := by
  rw [← amounts_iff.1 h]
  exact sign_additive cs

theorem Denotes.endsOperand_eq (h : Denotes b l t) : t.endsOperand = l.endsOperand := by
  cases h <;> rfl

theorem all_isAlpha_eq_false {cs : List Char} (hne : cs ≠ []) (h : ∀ c ∈ cs, c.isDigit = true) :
    ¬ cs.all Char.isAlpha = true := by
  obtain ⟨c, hc⟩ := List.exists_mem_of_ne_nil cs hne
  intro ha
  have hd := isAlpha_eq_false_of_isDigit (h c hc)
  rw [List.all_eq_true.1 ha c hc] at hd
  cases hd

theorem token_run_iff {cs : List Char} (hne : cs ≠ []) :
    (run cs).token b = .ok t ↔ Denotes b (run cs) t := by
  rw [token]
  constructor
  · intro h
    split at h
    · next ha =>
      cases h
      exact .name (List.all_eq_true.1 ha)
    · next ha =>
      split at h
      · next hd =>
        cases h
        rw [ofDigitChars_eq_decimal]
        exact .number (List.all_eq_true.1 hd)
      · next hd =>
        cases h
        exact .word (by simpa using ha) (by simpa using hd)
  · intro h
    cases h with
    | name ha => rw [if_pos (List.all_eq_true.2 ha)]
    | number hd =>
      rw [if_neg (all_isAlpha_eq_false hne hd), if_pos (List.all_eq_true.2 hd),
        ofDigitChars_eq_decimal]
    | word ha hd =>
      rw [if_neg (by simpa using ha), if_neg (by simpa using hd)]

theorem token_signs_iff {cs : List Char} :
    (signs cs).token b = .ok t ↔ Denotes b (signs cs) t := by
  rw [token_signs]
  constructor
  · intro h
    have ha : Amounts cs (sign cs) := amounts_iff.2 rfl
    cases b with
    | true => cases h; exact .binarySign ha
    | false => cases h; exact .unarySign ha
  · intro h
    cases h with
    | binarySign ha => rw [amounts_iff.1 ha]; rfl
    | unarySign ha => rw [amounts_iff.1 ha]; rfl

theorem token_mark_iff {c : Char} : (mark c).token b = .ok t ↔ Denotes b (mark c) t := by
  constructor
  · intro h
    unfold token at h
    split at h
    · next he => cases he
    · next he => cases he
    · next he => cases he; cases h; exact .product
    · next he => cases he; cases h; exact .quotient
    · next he => cases he; cases h; exact .power
    · next he => cases he; cases h; exact .opening
    · next he => cases he; cases h; exact .closing
    · cases h
  · intro h
    cases h <;> rfl

theorem token_eq_ok_iff (hp : l.Proper) : l.token b = .ok t ↔ Denotes b l t := by
  cases l with
  | run cs => exact token_run_iff hp.1
  | signs cs => exact token_signs_iff
  | mark c => exact token_mark_iff

theorem tokens_eq_ok_iff (hp : ∀ l ∈ ls, l.Proper) : tokens b ls = .ok ts ↔ DenotesEach b ls ts := by
  induction ls generalizing b ts with
  | nil =>
    constructor
    · intro h
      cases h
      exact .nil
    · intro h
      cases h
      rfl
  | cons l ls ih =>
    obtain ⟨hl, hls⟩ := List.forall_mem_cons.1 hp
    rw [tokens_cons_eq_ok_iff]
    constructor
    · rintro ⟨t, ts, ht, hts, rfl⟩
      have hd := (token_eq_ok_iff hl).1 ht
      rw [hd.endsOperand_eq] at hts
      exact .cons hd ((ih hls).1 hts)
    · intro h
      cases h with
      | cons hd hr =>
        rw [← hd.endsOperand_eq] at hr
        exact ⟨_, _, (token_eq_ok_iff hl).2 hd, (ih hls).2 hr, rfl⟩

theorem isLegal_mark_iff {c : Char} (hp : (mark c).Proper) :
    isLegal c = true ↔ c = '*' ∨ c = '/' ∨ c = '^' ∨ c = '(' ∨ c = ')' := by
  have hn : ¬ (c.isAlpha = true ∨ c.isDigit = true) := by
    rw [← isAlphanum_iff, hp.1]
    exact Bool.false_ne_true
  have hs : ¬ (c = '+' ∨ c = '-') := by
    rw [← isSign_iff, hp.2]
    exact Bool.false_ne_true
  rw [not_or] at hn hs
  simp [isLegal, hn, hs]

theorem token_mark_eq_error_iff {c : Char} (hp : (mark c).Proper) {e : LexError} :
    (mark c).token b = .error e ↔ isLegal c = false ∧ e = .invalidCharacter c := by
  rw [← Bool.not_eq_true, isLegal_mark_iff hp]
  unfold token
  split
  · next he => cases he
  · next he => cases he
  · next he => cases he; simp
  · next he => cases he; simp
  · next he => cases he; simp
  · next he => cases he; simp
  · next he => cases he; simp
  · next ht ho hw hl hr he =>
    cases he
    have hn : ¬ (c = '*' ∨ c = '/' ∨ c = '^' ∨ c = '(' ∨ c = ')') := by
      rintro (h | h | h | h | h)
      · exact ht h
      · exact ho h
      · exact hw h
      · exact hl h
      · exact hr h
    simp [hn, eq_comm]

theorem token_eq_error_iff_of_isLegal {e : LexError} (ht : l.token b = .ok t)
    (hl : ∀ c ∈ l.text, isLegal c = true) :
    l.token b = .error e ↔ ∃ c, l.text.find? (!isLegal ·) = some c ∧ e = .invalidCharacter c := by
  rw [ht, find?_eq_none_of_isLegal hl]
  constructor
  · intro h
    cases h
  · rintro ⟨c, hc, _⟩
    cases hc

/-- A lexeme makes a token unless it is a character that has no place in an expression. -/
theorem token_eq_error_iff (hp : l.Proper) {e : LexError} :
    l.token b = .error e ↔ ∃ c, l.text.find? (!isLegal ·) = some c ∧ e = .invalidCharacter c := by
  cases l with
  | run cs =>
    exact token_eq_error_iff_of_isLegal rfl fun c hc ↦ isLegal_of_isAlphanum (hp.2 c hc)
  | signs cs =>
    have ht := token_signs b cs
    exact token_eq_error_iff_of_isLegal ht fun c hc ↦ isLegal_of_isSign (hp.2 c hc)
  | mark c =>
    rw [token_mark_eq_error_iff hp, text, List.find?_singleton]
    cases isLegal c <;> simp

theorem tokens_eq_error_iff (hp : ∀ l ∈ ls, l.Proper) {e : LexError} :
    tokens b ls = .error e ↔
      ∃ c, (ls.flatMap text).find? (!isLegal ·) = some c ∧ e = .invalidCharacter c := by
  induction ls generalizing b with
  | nil => exact ⟨nofun, nofun⟩
  | cons l ls ih =>
    obtain ⟨hl, hls⟩ := List.forall_mem_cons.1 hp
    rw [List.flatMap_cons, List.find?_append]
    cases ht : l.token b with
    | error e' =>
      obtain ⟨c, hc, rfl⟩ := (token_eq_error_iff hl).1 ht
      rw [tokens_cons, ht, hc]
      change Except.error (LexError.invalidCharacter c) = .error e ↔ _
      simp [eq_comm]
    | ok t =>
      have hn : l.text.find? (!isLegal ·) = none := by
        cases hc : l.text.find? (!isLegal ·) with
        | none => rfl
        | some c =>
          rw [(token_eq_error_iff hl).2 ⟨c, hc, rfl⟩] at ht
          cases ht
      rw [tokens_cons_of_token ht, map_eq_error_iff, ih hls, hn]
      rfl

end Lexeme

theorem tokenize_eq_ok_iff {line : String} {ts : List Token} :
    tokenize line = .ok ts ↔
      Lexeme.DenotesEach false (Lexeme.ofText (Text.squeeze line.toList)) ts :=
  Lexeme.tokens_eq_ok_iff (Lexeme.maximal_ofText _).proper

theorem tokenize_eq_error_iff {line : String} {e : LexError} :
    tokenize line = .error e ↔
      ∃ c, (Text.squeeze line.toList).find? (!isLegal ·) = some c ∧ e = .invalidCharacter c := by
  rw [tokenize, Lexeme.tokens_eq_error_iff (Lexeme.maximal_ofText _).proper,
    Lexeme.flatMap_text_ofText]

/-- Lexing fails at the first illegal character of a line, blanks apart. Otherwise there is one way
to take the line apart into lexemes, each as long as it can be, and the tokens are what these stand
for, whatever was read before. -/
theorem Scanner.tokenize_denotation (s : Scanner) (line : String) :
    (∀ e, (s.tokenize line).1 = .error e ↔
      ∃ cs c ds, Text.squeeze line.toList = cs ++ c :: ds ∧ (∀ d ∈ cs, isLegal d = true) ∧
        isLegal c = false ∧ e = .invalidCharacter c) ∧
    ((∀ c ∈ Text.squeeze line.toList, isLegal c = true) →
      ∃ ls ts,
        (∀ ms, Lexeme.Maximal ms ∧ ms.flatMap Lexeme.text = Text.squeeze line.toList ↔ ms = ls) ∧
        (s.tokenize line).1 = .ok ts ∧ ∀ us, Lexeme.DenotesEach false ls us ↔ us = ts) := by
  rw [s.tokenize_fst]
  constructor
  · intro e
    rw [tokenize_eq_error_iff]
    constructor
    · rintro ⟨c, hc, he⟩
      obtain ⟨hi, cs, ds, hs, hl⟩ := List.find?_eq_some_iff_append.1 hc
      exact ⟨cs, c, ds, hs, by simpa using hl, by simpa using hi, he⟩
    · rintro ⟨cs, c, ds, hs, hl, hi, he⟩
      have hc : (Text.squeeze line.toList).find? (!isLegal ·) = some c :=
        List.find?_eq_some_iff_append.2 ⟨by simpa using hi, cs, ds, hs, by simpa using hl⟩
      exact ⟨c, hc, he⟩
  · intro hl
    refine ⟨Lexeme.ofText (Text.squeeze line.toList), ?_⟩
    cases h : Calculator.tokenize line with
    | error e =>
      obtain ⟨c, hc, _⟩ := tokenize_eq_error_iff.1 h
      rw [find?_eq_none_of_isLegal hl] at hc
      cases hc
    | ok ts =>
      refine ⟨ts, fun ms ↦ ⟨?_, ?_⟩, rfl, fun us ↦ ?_⟩
      · rintro ⟨hms, hs⟩
        rw [← hs, hms.ofText_flatMap_text]
      · rintro rfl
        exact ⟨Lexeme.maximal_ofText _, Lexeme.flatMap_text_ofText _⟩
      · rw [← tokenize_eq_ok_iff, h, Except.ok.injEq, eq_comm]

/-- The number read last does not make the first minus binary. -/
theorem Scanner.tokenize_behind_number :
    Lexeme.DenotesEach false
      [.signs ['-'], .run ['4', 'a', 'b'], .signs ['-', '+', '-'], .mark '(', .signs ['-'],
        .run ['x']]
      [.unary .sub, .word "4ab", .binary .add, .lparen, .unary .sub, .var "x"] := by
  obtain ⟨ls, ts, hls, ht, hd⟩ :=
    (Scanner.tokenize_denotation ⟨some (.num 5)⟩ " -4 ab -+- (-x").2 (List.all_eq_true.1 rfl)
  have hm : Lexeme.Maximal [.signs ['-'], .run ['4', 'a', 'b'], .signs ['-', '+', '-'],
      .mark '(', .signs ['-'], .run ['x']] := Lexeme.maximal_ofText "-4ab-+-(-x".toList
  rw [(hls _).1 ⟨hm, rfl⟩, hd]
  exact Except.ok.inj ht

end Calculator
