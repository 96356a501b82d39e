import Calculator.Proofs.Meaning

namespace Calculator

variable {a b v : Int}

theorem natAbs_lt_two_pow_bitLength (a : Int) : a.natAbs < Nat.pow 2 (bitLength a) :=
  bitLength_le_iff.1 (Nat.le_refl (bitLength a))

theorem bitLength_mono (h : a.natAbs ≤ b.natAbs) : bitLength a ≤ bitLength b :=
  bitLength_le_iff.2 (Nat.lt_of_le_of_lt h (natAbs_lt_two_pow_bitLength b))

theorem bitLength_neg (a : Int) : bitLength (-a) = bitLength a := by
  have h : (-a).natAbs = a.natAbs := Int.natAbs_neg a
  exact Nat.le_antisymm (bitLength_mono (Nat.le_of_eq h)) (bitLength_mono (Nat.le_of_eq h.symm))

theorem bitLength_add_le (a b : Int) :
    bitLength (a + b) ≤ max (bitLength a) (bitLength b) + 1 := by
  have ha : a.natAbs < Nat.pow 2 (max (bitLength a) (bitLength b)) :=
    bitLength_le_iff.1 (Nat.le_max_left _ _)
  have hb : b.natAbs < Nat.pow 2 (max (bitLength a) (bitLength b)) :=
    bitLength_le_iff.1 (Nat.le_max_right _ _)
  have hab : (a + b).natAbs ≤ a.natAbs + b.natAbs := Int.natAbs_add_le a b
  refine bitLength_le_iff.2 ?_
  change _ < Nat.pow 2 (max (bitLength a) (bitLength b)) * 2
  omega

theorem bitLength_sub_le (a b : Int) :
    bitLength (a - b) ≤ max (bitLength a) (bitLength b) + 1 := by
  have h := bitLength_add_le a (-b)
  rwa [bitLength_neg, ← Int.sub_eq_add_neg] at h

theorem bitLength_mul_le (a b : Int) : bitLength (a * b) ≤ bitLength a + bitLength b := by
  have h : a.natAbs * b.natAbs < Nat.pow 2 (bitLength a) * Nat.pow 2 (bitLength b) :=
    Nat.mul_lt_mul'' (natAbs_lt_two_pow_bitLength a) (natAbs_lt_two_pow_bitLength b)
  have hp : Nat.pow 2 (bitLength a + bitLength b) =
      Nat.pow 2 (bitLength a) * Nat.pow 2 (bitLength b) := Nat.pow_add 2 _ _
  rw [bitLength_le_iff, Int.natAbs_mul, hp]
  exact h

theorem bitLength_tdiv_le (a b : Int) : bitLength (a.tdiv b) ≤ bitLength a := by
  apply bitLength_mono
  rw [Int.natAbs_tdiv]
  exact Nat.div_le_self a.natAbs b.natAbs

theorem bitLength_pow_le_one (h : bitLength a ≤ 1) (n : Nat) : bitLength (Int.pow a n) ≤ 1 := by
  have ha : a.natAbs ≤ 1 := bitLength_le_one_iff.1 h
  have hp : (Int.pow a n).natAbs = Nat.pow a.natAbs n := Int.natAbs_pow a n
  have hn : Nat.pow a.natAbs n ≤ Nat.pow 1 n := Nat.pow_le_pow_left ha n
  have hone : Nat.pow 1 n = 1 := Nat.one_pow n
  rw [bitLength_le_one_iff, hp, ← hone]
  exact hn

theorem bitLength_pow_le (a : Int) {n : Nat} (hn : n ≠ 0) :
    bitLength (Int.pow a n) ≤ bitLength a * n := by
  have h : Nat.pow a.natAbs n < Nat.pow (Nat.pow 2 (bitLength a)) n :=
    Nat.pow_lt_pow_left (natAbs_lt_two_pow_bitLength a) hn
  have hp : (Int.pow a n).natAbs = Nat.pow a.natAbs n := Int.natAbs_pow a n
  have hm : Nat.pow 2 (bitLength a * n) = Nat.pow (Nat.pow 2 (bitLength a)) n := Nat.pow_mul 2 _ _
  rw [bitLength_le_iff, hp, hm]
  exact h

/-- A power that is computed at all has as many digits as the bound allows. -/
theorem bitLength_pow_of_defined (h : PowerDefined a b) :
    bitLength (Int.pow a b.toNat) ≤ maxPowerBits := by
  have hone : 1 ≤ maxPowerBits := Nat.one_le_two_pow
  obtain ⟨-, -, hs | hl⟩ := powerDefined_iff.1 h
  · exact Nat.le_trans (bitLength_pow_le_one hs b.toNat) hone
  · by_cases hn : b.toNat = 0
    · have hz : Int.pow a 0 = 1 := Int.pow_zero a
      have hb : bitLength 1 ≤ 1 := bitLength_le_one_iff.2 (Nat.le_refl 1)
      rw [hn, hz]
      exact Nat.le_trans hb hone
    · exact Nat.le_trans (bitLength_pow_le a hn) hl

namespace Op

variable {op : Op}

/-- An operator adds at most one digit to its operands, unless it is a power. -/
theorem bitLength_apply_le (h : op.apply a b = .ok v) :
    bitLength v ≤ bitLength a + bitLength b + maxPowerBits := by
  have hone : 1 ≤ maxPowerBits := Nat.one_le_two_pow
  cases op with
  | add =>
    cases h
    have := bitLength_add_le a b
    omega
  | sub =>
    cases h
    have := bitLength_sub_le a b
    omega
  | mul =>
    cases h
    have := bitLength_mul_le a b
    omega
  | div =>
    rw [apply] at h
    split at h
    · cases h
    · cases h
      have := bitLength_tdiv_le a b
      omega
  | pow =>
    rw [apply] at h
    split at h
    · next hd =>
      cases h
      rw [power_eq_pow]
      have := bitLength_pow_of_defined hd
      omega
    · cases h

theorem bitLength_applySign (h : op.applySign a = .ok v) : bitLength v = bitLength a := by
  cases op with
  | add => cases h; rfl
  | sub => cases h; exact bitLength_neg a
  | mul | div | pow => cases h

end Op

end Calculator
