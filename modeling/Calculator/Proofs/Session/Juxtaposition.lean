import Calculator.Proofs.Session.Malformed
import Calculator.Proofs.Session.Sentences
import Mathlib.Data.List.Chain

namespace Calculator

namespace Lexeme

theorem eq_false_of_token {b : Bool} {l : Lexeme} {op : Op} (h : l.token b = .ok (.unary op)) :
    b = false := by
  by_cases hl : ∃ cs, l = signs cs
  · obtain ⟨cs, rfl⟩ := hl
    cases b with
    | false => rfl
    | true => cases h
  · have ht := takeSign_of_token (fun cs h ↦ hl ⟨cs, h⟩) h .add
    cases ht

theorem endsOperand_of_tokens {b : Bool} {ls : List Lexeme} {us vs : List Token} {t : Token}
    {op : Op} (h : tokens b ls = .ok (us ++ t :: .unary op :: vs)) : t.endsOperand = false := by
  obtain ⟨_, ns, _, _, hn⟩ := tokens_eq_append h
  cases ns with
  | nil => cases hn
  | cons l ns =>
    obtain ⟨t', rest, _, hr, he⟩ := tokens_cons_eq_ok_iff.1 hn
    cases he
    cases ns with
    | nil => cases hr
    | cons l' ns =>
      obtain ⟨u, rest, hu, _, he⟩ := tokens_cons_eq_ok_iff.1 hr
      cases he
      exact eq_false_of_token hu

end Lexeme

namespace Token

def closes : Token → Bool
  | num _ | var _ | rparen => true
  | word _ | unary _ | binary _ | lparen => false

def opens : Token → Bool
  | num _ | var _ | lparen => true
  | word _ | unary _ | binary _ | rparen => false

/-- No operand ends directly in front of a token that begins another one. -/
def Separated (ts : List Token) : Prop :=
  ts.IsChain fun t u ↦ ¬ (t.closes = true ∧ u.opens = true)

instance (ts : List Token) : Decidable (Separated ts) :=
  inferInstanceAs (Decidable (List.IsChain _ _))

theorem exists_of_juxtapositions {b : Bool} {ts : List Token} (h : juxtapositions b ts ≠ 0) :
    (b = true ∧ ∃ u ∈ ts.head?, u.beginsOperand = true) ∨
      ∃ us t u vs, ts = us ++ t :: u :: vs ∧ t.endsOperand = true ∧ u.beginsOperand = true := by
  induction ts generalizing b with
  | nil => exact absurd rfl h
  | cons t ts ih =>
    rw [juxtapositions] at h
    by_cases hb : (b && t.beginsOperand) = true
    · rw [Bool.and_eq_true] at hb
      exact .inl ⟨hb.1, t, rfl, hb.2⟩
    · rw [if_neg hb, Nat.zero_add] at h
      rcases ih h with ⟨ht, u, hu, hb⟩ | ⟨us, t', u, vs, rfl, ht, hu⟩
      · obtain ⟨vs, rfl⟩ := List.head?_eq_some_iff.1 hu
        exact .inr ⟨[], t, u, vs, rfl, ht, hb⟩
      · exact .inr ⟨t :: us, t', u, vs, rfl, ht, hu⟩

end Token

variable {vars : Variables} {line : String} {ts ps : List Token} {v : Int}

theorem juxtapositions_of_separated (ht : tokenize line = .ok ts) (hp : toPostfix vars ts = .ok ps)
    (hs : Token.Separated ts) : Token.juxtapositions false ts = 0 := by
  by_contra hj
  rcases Token.exists_of_juxtapositions hj with ⟨hb, _⟩ | ⟨us, t, u, vs, rfl, hte, hub⟩
  · cases hb
  · have hn := (List.isChain_append_cons_cons.1 hs).2.1
    have htw := (admitted_of_toPostfix hp (t := t) (by simp)).1
    have huw := (admitted_of_toPostfix hp (t := u) (by simp)).1
    have htc : t.closes = true := by
      cases t with
      | num | var | rparen => rfl
      | word text => exact absurd rfl (htw text)
      | unary | binary | lparen => cases hte
    have huo : u.opens = true := by
      cases u with
      | num | var | lparen => rfl
      | word text => exact absurd rfl (huw text)
      | unary op =>
        have h := Lexeme.endsOperand_of_tokens ht
        rw [h] at hte
        cases hte
      | binary | rparen => cases hub
    exact hn ⟨htc, huo⟩

theorem value_toPostfix_iff {e : Expr} (h : Reads .tokens .sum ts e) :
    (∃ ps, toPostfix vars ts = .ok ps ∧ Postfix.value vars ps = .ok v) ↔
      (∀ name ∈ e.names, vars.contains name = true) ∧ e.meaning vars.get? = .ok v := by
  rw [← Variables.missing?_eq_none, ← Expr.value_eq_meaning, toPostfix_of_reads vars h]
  cases vars.missing? e.names with
  | some name => simp
  | none => simp [Postfix.value_postorder]

namespace Session

/-- Without a juxtaposition the session gives a value to sentences only, and it is the value of the
one tree that they have. -/
theorem evaluate_separated (s : Session) (line : String) (ts : List Token)
    (ht : tokenize line = .ok ts) (hs : Token.Separated ts) (v : Int) :
    s.evaluate line = .ok v ↔
      ∃ e, Reads .tokens .sum ts e ∧ (∀ e', Reads .tokens .sum ts e' → e' = e) ∧
        (∀ name ∈ e.names, s.vars.contains name = true) ∧ e.meaning s.vars.get? = .ok v := by
  have he : s.evaluate line = .ok v ↔
      ∃ ps, toPostfix s.vars ts = .ok ps ∧ Postfix.value s.vars ps = .ok v := by
    rw [evaluate_eq, evaluate_eq_ok_iff]
    simp [ht]
  rw [he]
  constructor
  · rintro ⟨ps, hp, hv⟩
    have hj := juxtapositions_of_separated ht hp hs
    have hc := vacancies_eq_juxtapositions hp hv
    have hw := Lexeme.written_of_tokenize ht
    obtain ⟨e, hr⟩ := Fits.of_shape (foldlM_deepen_of_toPostfix hp) (fun _ ↦ hw.additive) hj
      (hc.trans hj)
    exact ⟨e, hr, fun e' hr' ↦ hr'.tree_unique hr, (value_toPostfix_iff hr).1 ⟨ps, hp, hv⟩⟩
  · rintro ⟨e, hr, _, hv⟩
    exact (value_toPostfix_iff hr).2 hv

theorem evaluate_signed_power :
    ∃ e, Reads .tokens .sum
        [.unary .sub, .var "x", .binary .pow, .num 2, .binary .mul, .lparen, .num 3, .binary .sub,
          .num 1, .rparen] e ∧
      (∀ e', Reads .tokens .sum
        [.unary .sub, .var "x", .binary .pow, .num 2, .binary .mul, .lparen, .num 3, .binary .sub,
          .num 1, .rparen] e' → e' = e) ∧
      (∀ name ∈ e.names, (Variables.ofList [("x", 3)]).contains name = true) ∧
      e.meaning (Variables.ofList [("x", 3)]).get? = .ok (-18) :=
  (evaluate_separated { vars := Variables.ofList [("x", 3)] } "-x ^ 2 * (3 - 1)" _ rfl (by decide)
    (-18)).1 rfl

end Session

end Calculator
