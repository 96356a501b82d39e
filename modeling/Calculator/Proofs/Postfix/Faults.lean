import Calculator.Grammar
import Calculator.Proofs.Fallible

namespace Calculator

namespace Token

def arity : Token → Nat
  | unary _ => 1
  | binary _ => 2
  | num _ | var _ | word _ | lparen | rparen => 0

def Executable (vars : Variables) : Token → Prop
  | num _ | binary _ => True
  | var name => vars.contains name = true
  | unary op => op.Additive
  | word _ | lparen | rparen => False

end Token

namespace Postfix

variable {vars : Variables}

inductive Fault : List Int → Token → EvalError → Prop
  | underflow {stack : List Int} {t : Token} :
      stack.length < t.arity → Fault stack t .malformed
  | zeroDivisor {a : Int} {stack : List Int} :
      Fault (0 :: a :: stack) (.binary .div) .divisionByZero
  | exponent {a b : Int} {stack : List Int} :
      ¬ PowerDefined a b → Fault (b :: a :: stack) (.binary .pow) (.exponentOutOfRange b)

theorem Fault.of_apply {op : Op} {a b : Int} {e : EvalError} (h : op.apply a b = .error e)
    (stack : List Int) : Fault (b :: a :: stack) (.binary op) e := by
  cases op with
  | add | sub | mul => cases h
  | div =>
    rw [Op.apply] at h
    split at h
    · next hb => cases h; rw [hb]; exact .zeroDivisor
    · cases h
  | pow =>
    rw [Op.apply] at h
    split at h
    · cases h
    · next hd => cases h; exact .exponent hd

theorem Fault.of_step {stack : List Int} {t : Token} {e : EvalError} (ht : t.Executable vars)
    (h : step vars stack t = .error e) : Fault stack t e := by
  cases t with
  | num n => cases h
  | var name =>
    obtain ⟨v, hv⟩ := Option.isSome_iff_exists.1 ht
    rw [step, hv] at h
    cases h
  | word | lparen | rparen => cases ht
  | unary op =>
    cases stack with
    | nil => cases h; exact .underflow Nat.zero_lt_one
    | cons a stack => rcases ht with rfl | rfl <;> cases h
  | binary op =>
    rcases stack with _ | ⟨b, _ | ⟨a, stack⟩⟩
    · cases h; exact .underflow Nat.zero_lt_two
    · cases h; exact .underflow Nat.one_lt_two
    · have ha : op.apply a b = .error e := map_eq_error_iff.1 h
      exact .of_apply ha stack

theorem Fault.step {stack : List Int} {t : Token} {e : EvalError} (h : Fault stack t e) :
    Postfix.step vars stack t = .error e := by
  cases h with
  | underflow hl =>
    cases t with
    | num | var | word | lparen | rparen => cases hl
    | unary op =>
      have hs : stack = [] := List.length_eq_zero_iff.1 (Nat.lt_one_iff.1 hl)
      rw [hs]
      rfl
    | binary op =>
      rcases stack with _ | ⟨b, _ | ⟨a, stack⟩⟩
      · rfl
      · rfl
      · simp only [List.length_cons, Token.arity] at hl
        omega
  | zeroDivisor => rfl
  | exponent hd => simp [Postfix.step, Op.apply, hd, Except.map]

theorem run_eq_error_iff {stack : List Int} {ts : List Token} {e : EvalError} :
    run vars stack ts = .error e ↔
      ∃ us t vs mid, ts = us ++ t :: vs ∧ run vars stack us = .ok mid ∧
        step vars mid t = .error e :=
  foldlM_eq_error_iff

/-- A row of executable tokens fails at one of them, or at its end because it leaves no operand or
more than one. -/
theorem value_eq_error_iff {ts : List Token} {e : EvalError} (ht : ∀ t ∈ ts, t.Executable vars) :
    value vars ts = .error e ↔
      (∃ us t vs stack, ts = us ++ t :: vs ∧ run vars [] us = .ok stack ∧ Fault stack t e) ∨
        ∃ stack, run vars [] ts = .ok stack ∧ stack.length ≠ 1 ∧ e = .malformed := by
  have hrun : run vars [] ts = .error e ↔
      ∃ us t vs stack, ts = us ++ t :: vs ∧ run vars [] us = .ok stack ∧ Fault stack t e := by
    rw [run_eq_error_iff]
    constructor
    · rintro ⟨us, t, vs, stack, rfl, hr, he⟩
      have hx : t.Executable vars := ht t (by simp)
      exact ⟨us, t, vs, stack, rfl, hr, .of_step hx he⟩
    · rintro ⟨us, t, vs, stack, rfl, hr, hf⟩
      exact ⟨us, t, vs, stack, rfl, hr, hf.step⟩
  rw [value, bind_eq_error_iff, hrun]
  refine or_congr Iff.rfl (exists_congr fun stack ↦ and_congr Iff.rfl ?_)
  rcases stack with _ | ⟨v, _ | ⟨w, stack⟩⟩
  · simp [eq_comm]
  · simp [pure, Except.pure]
  · simp [eq_comm]

theorem value_ne_unknownVariable {ts : List Token} (ht : ∀ t ∈ ts, t.Executable vars)
    (name : String) : value vars ts ≠ .error (.unknownVariable name) := by
  intro h
  rcases (value_eq_error_iff ht).1 h with ⟨us, t, vs, stack, _, _, hf⟩ | ⟨stack, _, _, he⟩
  · cases hf
  · cases he

end Postfix

end Calculator
