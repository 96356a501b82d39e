import Calculator.Token

namespace Calculator

inductive EvalError
  | unknownVariable (name : String)
  | malformed
  | divisionByZero
  | exponentOutOfRange (exponent : Int)
  deriving DecidableEq, Repr

def bitLength (a : Int) : Nat := if a = 0 then 0 else a.natAbs.log2 + 1

def maxPowerBits : Nat := Nat.pow 2 24

/-- A product of words of 64 bits, which stops at the greatest word. -/
def saturatingMul (m n : Nat) : Nat := min (m * n) (Nat.pow 2 64 - 1)

theorem saturatingMul_le_iff {m n k : Nat} (hk : k < Nat.pow 2 64 - 1) :
    saturatingMul m n ≤ k ↔ m * n ≤ k := by
  unfold saturatingMul
  generalize m * n = p
  generalize Nat.pow 2 64 - 1 = top at hk
  omega

/-- Whether a power is computed at all. The base limits the exponent by the digits that the result
can have; 0, 1 and -1 stay as short as they are. -/
def PowerDefined (base exponent : Int) : Prop :=
  0 ≤ exponent ∧ exponent < Int.pow 2 32 ∧
    (bitLength base ≤ 1 ∨ saturatingMul (bitLength base) exponent.toNat ≤ maxPowerBits)

/-- No product that matters is so great that it stops. -/
theorem powerDefined_iff {base exponent : Int} :
    PowerDefined base exponent ↔
      0 ≤ exponent ∧ exponent < Int.pow 2 32 ∧
        (bitLength base ≤ 1 ∨ bitLength base * exponent.toNat ≤ maxPowerBits) := by
  rw [PowerDefined, saturatingMul_le_iff (by decide)]

instance (base exponent : Int) : Decidable (PowerDefined base exponent) :=
  inferInstanceAs (Decidable (_ ∧ _))

/-- A power whose cost does not grow with the exponent for 0, 1 and -1. -/
def power (base : Int) (exponent : Nat) : Int :=
  if base.natAbs ≤ 1 ∧ exponent ≠ 0 then Int.pow base (2 - exponent % 2)
  else Int.pow base exponent

theorem power_eq_pow (base : Int) (exponent : Nat) :
    power base exponent = Int.pow base exponent := by
  change (if _ then base ^ (2 - exponent % 2) else base ^ exponent) = base ^ exponent
  split
  · next h =>
    have hb : base = 0 ∨ base = 1 ∨ base = -1 := by omega
    have hp : exponent % 2 = 0 ∨ exponent % 2 = 1 := by omega
    rcases hb with rfl | rfl | rfl
    · rw [Int.zero_pow (by omega), Int.zero_pow h.2]
    · rw [Int.one_pow, Int.one_pow]
    · rw [@Int.neg_pow 1 exponent, Int.one_pow, Int.mul_one]
      rcases hp with hp | hp
      · simp [hp]
      · simp [hp]
  · rfl

namespace Op

def apply (a b : Int) : Op → Except EvalError Int
  | add => .ok (a + b)
  | sub => .ok (a - b)
  | mul => .ok (a * b)
  | div => if b = 0 then .error .divisionByZero else .ok (a.tdiv b)
  | pow => if PowerDefined a b then .ok (power a b.toNat) else .error (.exponentOutOfRange b)

def applySign (a : Int) : Op → Except EvalError Int
  | add => .ok a
  | sub => .ok (-a)
  | _ => .error .malformed

end Op

end Calculator
