import Calculator.Proofs.BitLength
import Calculator.Proofs.Fallible

namespace Calculator.Postfix

variable {vars : Variables}

def digits : List Int → Nat
  | [] => 0
  | n :: stack => bitLength n + digits stack

theorem digits_cons (n : Int) (stack : List Int) :
    digits (n :: stack) = bitLength n + digits stack := rfl

theorem digits_step {stack stack' : List Int} {t : Token} {k : Nat}
    (hn : ∀ n, t = .num n → bitLength n ≤ k)
    (hv : ∀ name v, t = .var name → vars.get? name = some v → bitLength v ≤ k)
    (hk : maxPowerBits ≤ k) (h : step vars stack t = .ok stack') :
    digits stack' ≤ digits stack + k := by
  unfold step at h
  split at h
  · next stack n =>
    cases h
    have := hn n rfl
    rw [digits_cons]
    omega
  · next stack name =>
    split at h
    · next v hg =>
      cases h
      have := hv name v rfl hg
      rw [digits_cons]
      omega
    · cases h
  · next b a stack op =>
    obtain ⟨v, ha, rfl⟩ := map_eq_ok_iff.1 h
    have := Op.bitLength_apply_le ha
    rw [digits_cons, digits_cons, digits_cons]
    omega
  · next a stack op =>
    obtain ⟨v, ha, rfl⟩ := map_eq_ok_iff.1 h
    have := Op.bitLength_applySign ha
    rw [digits_cons, digits_cons]
    omega
  · cases h

/-- Only the names that the run comes to need to have short values. -/
theorem digits_run {stack stack' : List Int} {ts : List Token} {k : Nat}
    (hn : ∀ n, .num n ∈ ts → bitLength n ≤ k)
    (hv : ∀ us name vs mid v, ts = us ++ .var name :: vs → run vars stack us = .ok mid →
      vars.get? name = some v → bitLength v ≤ k)
    (hk : maxPowerBits ≤ k) (h : run vars stack ts = .ok stack') :
    digits stack' ≤ digits stack + ts.length * k := by
  induction ts generalizing stack with
  | nil =>
    cases h
    exact Nat.le_add_right _ _
  | cons t ts ih =>
    obtain ⟨mid, ht, hr⟩ := bind_eq_ok_iff.1 h
    have hs : digits mid ≤ digits stack + k := by
      refine digits_step (fun n he ↦ ?_) (fun name v he hg ↦ ?_) hk ht
      · exact hn n (he ▸ List.mem_cons_self)
      · exact hv [] name ts stack v (congrArg (· :: ts) he) rfl hg
    have hrest : digits stack' ≤ digits mid + ts.length * k := by
      refine ih (fun n hm ↦ hn n (List.mem_cons_of_mem t hm)) ?_ hr
      intro us name vs mid' v he hu hg
      refine hv (t :: us) name vs mid' v (congrArg (t :: ·) he) ?_ hg
      exact bind_eq_ok_iff.2 ⟨mid, ht, hu⟩
    rw [List.length_cons, Nat.succ_mul]
    omega

theorem digits_run_take {ts : List Token} {k : Nat}
    (hn : ∀ n, .num n ∈ ts → bitLength n ≤ k)
    (hv : ∀ us name vs mid v, ts = us ++ .var name :: vs → run vars [] us = .ok mid →
      vars.get? name = some v → bitLength v ≤ k)
    (hk : maxPowerBits ≤ k) (i : Nat) {stack : List Int}
    (h : run vars [] (ts.take i) = .ok stack) : digits stack ≤ i * k := by
  have hd : digits stack ≤ 0 + (ts.take i).length * k := by
    refine digits_run (fun n hm ↦ hn n (List.mem_of_mem_take hm)) ?_ hk h
    intro us name vs mid v he hu hg
    refine hv us name (vs ++ ts.drop i) mid v ?_ hu hg
    rw [← List.cons_append, ← List.append_assoc, ← he, List.take_append_drop]
  have hl : (ts.take i).length * k ≤ i * k :=
    Nat.mul_le_mul_right k (List.length_take_le i ts)
  omega

/-- The operands on the stack grow by a fixed number of digits with each token, however powers and
products are nested, and so does the value of the line. -/
theorem bitLength_value_le (vars : Variables) (ts : List Token) (B : Nat)
    (hn : ∀ n, .num n ∈ ts → bitLength n ≤ B)
    (hv : ∀ us name vs mid v, ts = us ++ .var name :: vs → run vars [] us = .ok mid →
      vars.get? name = some v → bitLength v ≤ B) :
    (∀ i stack, run vars [] (ts.take i) = .ok stack →
      digits stack ≤ i * max B (Nat.pow 2 24)) ∧
    ∀ v, value vars ts = .ok v → bitLength v ≤ ts.length * max B (Nat.pow 2 24) := by
  have hB : B ≤ max B (Nat.pow 2 24) := Nat.le_max_left _ _
  have hi : ∀ i stack, run vars [] (ts.take i) = .ok stack →
      digits stack ≤ i * max B (Nat.pow 2 24) := by
    intro i stack hr
    refine digits_run_take (fun n hm ↦ Nat.le_trans (hn n hm) hB) ?_ (Nat.le_max_right _ _) i hr
    intro us name vs mid v he hu hg
    exact Nat.le_trans (hv us name vs mid v he hu hg) hB
  refine ⟨hi, fun v h ↦ ?_⟩
  obtain ⟨stack, hr, hs⟩ := bind_eq_ok_iff.1 h
  have hd : digits stack ≤ ts.length * max B (Nat.pow 2 24) := by
    refine hi ts.length stack ?_
    rw [List.take_length]
    exact hr
  split at hs
  · cases hs
    have hone : digits [v] = bitLength v := Nat.add_zero (bitLength v)
    rwa [hone] at hd
  · cases hs

/-- `(3 ^ x) ^ x * -x` for `x = 4`, which has three digits. -/
theorem bitLength_nested_power :
    value (Variables.ofList [("x", 4)])
        [.num 3, .var "x", .binary .pow, .var "x", .binary .pow, .var "x", .unary .sub,
          .binary .mul] = .ok (-172186884) ∧
      bitLength (-172186884) ≤ 8 * max 3 (Nat.pow 2 24) := by
  have hv : value (Variables.ofList [("x", 4)])
      [.num 3, .var "x", .binary .pow, .var "x", .binary .pow, .var "x", .unary .sub,
        .binary .mul] = .ok (-172186884) := rfl
  have hn : ∀ n, .num n ∈ [Token.num 3, .var "x", .binary .pow, .var "x", .binary .pow, .var "x",
      .unary .sub, .binary .mul] → bitLength n ≤ 3 := by
    intro n hm
    have he : n = 3 := by simpa using hm
    rw [he]
    exact bitLength_le_iff.2 (by decide)
  refine ⟨hv, (bitLength_value_le _ _ 3 hn ?_).2 _ hv⟩
  intro us name vs mid v he _ hg
  have hm : .var name ∈ us ++ .var name :: vs := by simp
  rw [← he] at hm
  have hx : name = "x" := by simpa using hm
  rw [hx] at hg
  cases hg
  exact bitLength_le_iff.2 (by decide)

end Calculator.Postfix
