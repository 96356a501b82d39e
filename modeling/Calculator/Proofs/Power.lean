import Calculator.Proofs.BitLength

namespace Calculator

variable {a b : Int}

theorem lt_bitLength_iff {k : Nat} : k < bitLength a ↔ Nat.pow 2 k ≤ a.natAbs := by
  rw [← Nat.not_le, bitLength_le_iff, Nat.not_lt]

/-- A factor adds all its binary digits but one, at least. -/
theorem lt_bitLength_pow (ha : a ≠ 0) (n : Nat) :
    (bitLength a - 1) * n < bitLength (Int.pow a n) := by
  have hpos : ¬ bitLength a ≤ 0 := by
    rw [bitLength_le_iff]
    change ¬ a.natAbs < 1
    omega
  have hbase : Nat.pow 2 (bitLength a - 1) ≤ a.natAbs := lt_bitLength_iff.1 (by omega)
  have hpow : (Int.pow a n).natAbs = Nat.pow a.natAbs n := Int.natAbs_pow a n
  have hmul : Nat.pow 2 ((bitLength a - 1) * n) = Nat.pow (Nat.pow 2 (bitLength a - 1)) n :=
    Nat.pow_mul 2 _ _
  rw [lt_bitLength_iff, hpow, hmul]
  exact Nat.pow_le_pow_left hbase n

/-- What is refused for its length would have more than half as many digits as the bound allows. -/
theorem lt_bitLength_pow_of_not_defined (h₀ : 0 ≤ b) (h₁ : b < Int.pow 2 32)
    (h : ¬ PowerDefined a b) : Nat.pow 2 23 < bitLength (Int.pow a b.toNat) := by
  have hrefused : ¬ (bitLength a ≤ 1 ∨ bitLength a * b.toNat ≤ maxPowerBits) :=
    fun hs ↦ h (powerDefined_iff.2 ⟨h₀, h₁, hs⟩)
  obtain ⟨hlong, hmany⟩ := not_or.1 hrefused
  have ha : a ≠ 0 := by
    rintro rfl
    exact hlong (Nat.zero_le 1)
  have hlow := lt_bitLength_pow ha b.toNat
  have hhalf : bitLength a * b.toNat ≤ 2 * ((bitLength a - 1) * b.toNat) := by
    rw [← Nat.mul_assoc]
    exact Nat.mul_le_mul_right b.toNat (by omega)
  have hbound : maxPowerBits = 2 * Nat.pow 2 23 := rfl
  omega

namespace Op

theorem apply_pow_eq_ok_iff {v : Int} :
    pow.apply a b = .ok v ↔ PowerDefined a b ∧ Int.pow a b.toNat = v := by
  rw [apply, power_eq_pow]
  split
  · next h => simp [h]
  · next h => simp [h]

theorem apply_pow_eq_error_iff {e : EvalError} :
    pow.apply a b = .error e ↔ ¬ PowerDefined a b ∧ .exponentOutOfRange b = e := by
  rw [apply]
  split
  · next h => simp [h]
  · next h => simp [h]

/-- The bound on powers lets no longer result through and refuses none that has at most half as many
digits, and a product that stops at the greatest word decides alike. -/
theorem apply_pow_bounds (a b : Int) :
    (∀ v, pow.apply a b = .ok v ↔ Raises a b ∧ v = Int.pow a b.toNat) ∧
    (∀ e, pow.apply a b = .error e ↔ ¬ Raises a b ∧ e = .exponentOutOfRange b) ∧
    (saturatingMul (bitLength a) b.toNat ≤ maxPowerBits ↔
      binaryDigits a.natAbs * b.toNat ≤ Nat.pow 2 24) ∧
    (∀ v, pow.apply a b = .ok v → binaryDigits v.natAbs ≤ Nat.pow 2 24) ∧
    (∀ e, pow.apply a b = .error e → 0 ≤ b → b < Int.pow 2 32 →
      Nat.pow 2 23 < binaryDigits (Int.pow a b.toNat).natAbs) := by
  refine ⟨fun v ↦ ?_, fun e ↦ ?_, ?_, fun v hv ↦ ?_, fun e he h₀ h₁ ↦ ?_⟩
  · rw [apply_pow_eq_ok_iff, powerDefined_iff_raises, eq_comm (a := v)]
  · rw [apply_pow_eq_error_iff, powerDefined_iff_raises, eq_comm (a := e)]
  · rw [← bitLength_eq_binaryDigits]
    exact saturatingMul_le_iff (by decide)
  · obtain ⟨hd, rfl⟩ := apply_pow_eq_ok_iff.1 hv
    rw [← bitLength_eq_binaryDigits]
    exact bitLength_pow_of_defined hd
  · obtain ⟨hd, -⟩ := apply_pow_eq_error_iff.1 he
    rw [← bitLength_eq_binaryDigits]
    exact lt_bitLength_pow_of_not_defined h₀ h₁ hd

/-- One more than half the bound is the first exponent that the base -2 does not take. -/
theorem apply_pow_past_limit :
    pow.apply (-2) 8388608 = .ok (Int.pow (-2) (Int.toNat 8388608)) ∧
      pow.apply (-2) 8388609 = .error (.exponentOutOfRange 8388609) ∧
      Nat.pow 2 23 < binaryDigits (Int.pow (-2) (Int.toNat 8388609)).natAbs := by
  obtain ⟨hok, -⟩ := apply_pow_bounds (-2) 8388608
  obtain ⟨-, herror, -, -, hlong⟩ := apply_pow_bounds (-2) 8388609
  have hlast : Raises (-2) 8388608 := powerDefined_iff_raises.1 (by decide)
  have hnext : ¬ Raises (-2) 8388609 := fun h ↦ absurd (powerDefined_iff_raises.2 h) (by decide)
  have hrefused := (herror _).2 ⟨hnext, rfl⟩
  exact ⟨(hok _).2 ⟨hlast, rfl⟩, hrefused, hlong _ hrefused (by decide) (by decide)⟩

end Op

end Calculator
