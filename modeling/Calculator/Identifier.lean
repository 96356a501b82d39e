import Calculator.Text.Letter

namespace Calculator

def isIdentifier (cs : List Char) : Bool := !cs.isEmpty && cs.all Char.isAlpha

theorem isIdentifier_iff {cs : List Char} :
    isIdentifier cs = true ↔ cs ≠ [] ∧ ∀ c ∈ cs, c.isAlpha = true := by
  simp [isIdentifier]

end Calculator
