import Calculator.Postfix
import Calculator.Proofs.Fallible

namespace Calculator

namespace Token

/-- A word counts as well: it stands where an operand should. -/
def isOperand : Token → Bool
  | num _ | var _ | word _ => true
  | unary _ | binary _ | lparen | rparen => false

def isBinary : Token → Bool
  | binary _ => true
  | num _ | var _ | word _ | unary _ | lparen | rparen => false

end Token

namespace Postfix

variable {vars : Variables}

theorem length_step {stack stack' : List Int} {t : Token} (h : step vars stack t = .ok stack') :
    stack'.length + (if t.isBinary then 1 else 0) =
      stack.length + (if t.isOperand then 1 else 0) := by
  unfold step at h
  split at h
  · cases h
    rfl
  · split at h
    · cases h
      rfl
    · cases h
  · obtain ⟨v, _, rfl⟩ := map_eq_ok_iff.1 h
    rfl
  · obtain ⟨v, _, rfl⟩ := map_eq_ok_iff.1 h
    rfl
  · cases h

/-- Every operand makes the stack higher by one and every binary operator lower by one. -/
theorem length_run {stack stack' : List Int} {ts : List Token}
    (h : run vars stack ts = .ok stack') :
    stack'.length + ts.countP Token.isBinary = stack.length + ts.countP Token.isOperand := by
  induction ts generalizing stack with
  | nil => cases h; rfl
  | cons t ts ih =>
    obtain ⟨mid, hs, hr⟩ := bind_eq_ok_iff.1 h
    have hm := length_step hs
    have hl := ih hr
    rw [List.countP_cons, List.countP_cons]
    omega

theorem countP_of_value {ts : List Token} {v : Int} (h : value vars ts = .ok v) :
    ts.countP Token.isOperand = ts.countP Token.isBinary + 1 := by
  obtain ⟨stack, hr, hv⟩ := bind_eq_ok_iff.1 h
  have hl := length_run hr
  split at hv
  · change 1 + _ = 0 + _ at hl
    omega
  · cases hv

end Postfix

end Calculator
