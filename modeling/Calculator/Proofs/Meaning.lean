import Calculator.Expr

namespace Calculator

def binaryDigits (n : Nat) : Nat := if n = 0 then 0 else (Nat.toDigits 2 n).length

theorem binaryDigits_le_iff {n k : Nat} : binaryDigits n ≤ k ↔ n < Nat.pow 2 k := by
  change _ ↔ n < 2 ^ k
  unfold binaryDigits
  by_cases hn : n = 0
  · rw [if_pos hn, hn]
    exact ⟨fun _ ↦ Nat.two_pow_pos k, fun _ ↦ Nat.zero_le k⟩
  · rw [if_neg hn]
    have hpos : 0 < (Nat.toDigits 2 n).length := Nat.length_toDigits_pos
    rcases Nat.eq_zero_or_pos k with rfl | hk
    · rw [Nat.pow_zero]
      omega
    · exact Nat.length_toDigits_le_iff (by decide) hk

theorem bitLength_le_iff {a : Int} {k : Nat} : bitLength a ≤ k ↔ a.natAbs < Nat.pow 2 k := by
  change _ ↔ a.natAbs < 2 ^ k
  unfold bitLength
  split
  · next h =>
    rw [h]
    exact ⟨fun _ ↦ Nat.two_pow_pos k, fun _ ↦ Nat.zero_le k⟩
  · next h => rw [← Nat.log2_lt (Int.natAbs_ne_zero.2 h), Nat.lt_iff_add_one_le]

theorem bitLength_eq_binaryDigits (a : Int) : bitLength a = binaryDigits a.natAbs := by
  refine Nat.le_antisymm ?_ ?_
  · exact bitLength_le_iff.2 (binaryDigits_le_iff.1 (Nat.le_refl _))
  · exact binaryDigits_le_iff.2 (bitLength_le_iff.1 (Nat.le_refl _))

theorem bitLength_le_one_iff {a : Int} : bitLength a ≤ 1 ↔ a.natAbs ≤ 1 := by
  rw [bitLength_le_iff]
  change a.natAbs < 2 ↔ _
  omega

/-- Whether a power is computed, said of the binary digits of the base and an exact product. -/
def Raises (a b : Int) : Prop :=
  0 ≤ b ∧ b < Int.pow 2 32 ∧
    (a.natAbs ≤ 1 ∨ binaryDigits a.natAbs * b.toNat ≤ Nat.pow 2 24)

instance (a b : Int) : Decidable (Raises a b) := inferInstanceAs (Decidable (_ ∧ _))

theorem powerDefined_iff_raises {a b : Int} : PowerDefined a b ↔ Raises a b := by
  rw [powerDefined_iff, bitLength_le_one_iff, bitLength_eq_binaryDigits, maxPowerBits, Raises]

def Op.meaning (a b : Int) : Op → Except EvalError Int
  | add => .ok (a + b)
  | sub => .ok (a - b)
  | mul => .ok (a * b)
  | div => if b = 0 then .error .divisionByZero else .ok (a.tdiv b)
  | pow => if Raises a b then .ok (Int.pow a b.toNat) else .error (.exponentOutOfRange b)

def Op.signMeaning (a : Int) : Op → Except EvalError Int
  | add => .ok a
  | sub => .ok (-a)
  | mul | div | pow => .error .malformed

theorem Op.apply_eq_meaning (op : Op) (a b : Int) : op.apply a b = op.meaning a b := by
  cases op with
  | add | sub | mul | div => rfl
  | pow => simp only [apply, meaning, powerDefined_iff_raises, power_eq_pow]

theorem Op.applySign_eq_signMeaning (op : Op) (a : Int) : op.applySign a = op.signMeaning a := by
  cases op <;> rfl

namespace Expr

/-- What a tree stands for, where names stand for the values of `ρ`. The left operand is evaluated
before the right one, and the first error is the error of the whole. -/
def meaning (ρ : String → Option Int) : Expr → Except EvalError Int
  | num n => .ok n
  | var name => (ρ name).elim (.error (.unknownVariable name)) .ok
  | unary op a =>
    match a.meaning ρ with
    | .error e => .error e
    | .ok v => op.signMeaning v
  | binary op a b =>
    match a.meaning ρ, b.meaning ρ with
    | .error e, _ => .error e
    | .ok _, .error e => .error e
    | .ok v, .ok w => op.meaning v w

theorem value_eq_meaning (vars : Variables) (e : Expr) : e.value vars = e.meaning vars.get? := by
  induction e with
  | num n => rfl
  | var name =>
    rw [value, meaning]
    cases vars.get? name <;> rfl
  | unary op a ih =>
    rw [value, meaning, ih]
    cases a.meaning vars.get? with
    | error e => rfl
    | ok v => exact op.applySign_eq_signMeaning v
  | binary op a b iha ihb =>
    rw [value, meaning, iha, ihb]
    cases a.meaning vars.get? with
    | error e => rfl
    | ok v =>
      cases b.meaning vars.get? with
      | error e => rfl
      | ok w => exact op.apply_eq_meaning v w

end Expr

end Calculator
