import Calculator.Proofs.Fallible
import Calculator.Proofs.Grammar.Ambiguity
import Calculator.Proofs.Meaning

namespace Calculator.Postfix

variable {vars : Variables}

/-- The operands on a stack are the values of trees, and the postorders of the trees one after the
other make up a row. The last tree is on top. -/
inductive Forest (vars : Variables) : List Int → List Token → Prop
  | empty : Forest vars [] []
  | plant {stack : List Int} {ts : List Token} {v : Int} (e : Expr) :
      Forest vars stack ts → e.value vars = .ok v → Forest vars (v :: stack) (ts ++ e.postorder)

variable {stack stack' : List Int} {ts us : List Token}

/-- An operand is a tree by itself, and an operator takes the last trees for its operands. -/
theorem Forest.step {t : Token} (h : Forest vars stack ts) (hs : step vars stack t = .ok stack') :
    Forest vars stack' (ts ++ [t]) := by
  unfold Postfix.step at hs
  split at hs
  · next stack n =>
    cases hs
    exact .plant (.num n) h rfl
  · next stack name =>
    split at hs
    · next v hv =>
      cases hs
      refine .plant (.var name) h ?_
      rw [Expr.value, hv]
    · cases hs
  · next b a stack op =>
    obtain ⟨v, hv, rfl⟩ := map_eq_ok_iff.1 hs
    cases h with
    | plant eb h hb =>
      cases h with
      | plant ea h ha =>
        have he : (Expr.binary op ea eb).value vars = .ok v := by
          rw [Expr.value, ha, hb]
          exact hv
        have hf := h.plant (.binary op ea eb) he
        rwa [Expr.postorder, ← List.append_assoc, ← List.append_assoc] at hf
  · next a stack op =>
    obtain ⟨v, hv, rfl⟩ := map_eq_ok_iff.1 hs
    cases h with
    | plant ea h ha =>
      have he : (Expr.unary op ea).value vars = .ok v := by
        rw [Expr.value, ha]
        exact hv
      have hf := h.plant (.unary op ea) he
      rwa [Expr.postorder, ← List.append_assoc] at hf
  · cases hs

theorem Forest.run (h : Forest vars stack ts) (hr : run vars stack us = .ok stack') :
    Forest vars stack' (ts ++ us) := by
  induction us generalizing stack ts with
  | nil =>
    cases hr
    rwa [List.append_nil]
  | cons u us ih =>
    obtain ⟨mid, hs, hr⟩ := bind_eq_ok_iff.1 hr
    have hf := ih (h.step hs) hr
    rwa [List.append_assoc] at hf

theorem run_eq_ok_iff : run vars [] ts = .ok stack ↔ Forest vars stack ts := by
  constructor
  · exact fun h ↦ Forest.empty.run h
  · intro h
    induction h with
    | empty => rfl
    | plant e _ hv ih =>
      rw [run_append, ih]
      change run vars _ e.postorder = _
      rw [run_postorder, hv]
      rfl

theorem value_eq_ok_iff {v : Int} :
    value vars ts = .ok v ↔ ∃ e : Expr, e.postorder = ts ∧ e.value vars = .ok v := by
  constructor
  · intro h
    obtain ⟨stack, hr, hv⟩ := bind_eq_ok_iff.1 h
    have hf := run_eq_ok_iff.1 hr
    split at hv
    · cases hv
      cases hf with
      | plant e hf he =>
        cases hf
        exact ⟨e, rfl, he⟩
    · cases hv
  · rintro ⟨e, rfl, he⟩
    rw [value_postorder, he]

/-- The machine gives a value to the postorders of trees only. There it agrees with the recursive
evaluation of the tree, errors included, and a row is the postorder of one tree at most. -/
theorem value_tree (vars : Variables) (ts : List Token) :
    (∀ v, value vars ts = .ok v ↔
      ∃ e : Expr, e.postorder = ts ∧ e.meaning vars.get? = .ok v) ∧
    (∀ e : Expr, e.postorder = ts →
      value vars ts = e.meaning vars.get? ∧ ∀ e' : Expr, e'.postorder = ts → e' = e) ∧
    ((¬ ∃ e : Expr, e.postorder = ts) → ∃ err, value vars ts = .error err) := by
  refine ⟨fun v ↦ ?_, ?_, fun hn ↦ ?_⟩
  · simp only [value_eq_ok_iff, Expr.value_eq_meaning]
  · rintro e rfl
    refine ⟨?_, fun e' h ↦ Expr.postorder_inj h⟩
    rw [value_postorder, Expr.value_eq_meaning]
  · cases h : value vars ts with
    | error err => exact ⟨err, rfl⟩
    | ok v =>
      obtain ⟨e, he, _⟩ := value_eq_ok_iff.1 h
      exact absurd ⟨e, he⟩ hn

/-- `1 / 0 + y`, where `y` is not defined either. -/
theorem value_division_before_name :
    value ∅ [.num 1, .num 0, .binary .div, .var "y", .binary .add] = .error .divisionByZero :=
  ((value_tree ∅ _).2.1
    (.binary .add (.binary .div (.num 1) (.num 0)) (.var "y")) rfl).1

end Calculator.Postfix
