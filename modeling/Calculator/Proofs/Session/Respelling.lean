import Calculator.Proofs.Session.Shortcuts
import Calculator.Proofs.Token.Contraction

namespace Calculator

open Text

variable {line line' : String}

theorem evaluate_eq_of_contractSigns (vars : Variables)
    (h : contractSigns (squeeze line.toList) = contractSigns (squeeze line'.toList)) :
    evaluate vars line = evaluate vars line' := by
  have ht : tokenize line = tokenize line' := by
    unfold tokenize
    rw [← Lexeme.tokens_ofText_contractSigns, h, Lexeme.tokens_ofText_contractSigns]
  unfold evaluate
  rw [ht]

theorem trim_eq_nil_iff {cs : List Char} : trim cs = [] ↔ squeeze cs = [] := by
  rw [← List.head?_eq_none_iff, head?_trim, List.head?_eq_none_iff]

theorem mem_of_mem_trim {c : Char} {cs : List Char} (h : c ∈ trim cs) (hb : isBlank c = false) :
    c ∈ cs := by
  have hs : c ∈ squeeze (trim cs) := mem_squeeze.2 ⟨h, hb⟩
  rw [squeeze_trim] at hs
  exact (mem_squeeze.1 hs).1

namespace Session

theorem attempt_of_blank (s : Session) (h : squeeze line.toList = []) :
    s.attempt line = .ok (.silent, s) := by
  rw [attempt_eq, Request.ofLine, trim_eq_nil_iff.2 h]

theorem attempt_of_not_blank (s : Session) (ha : '=' ∉ line.toList)
    (hc : (squeeze line.toList).head? ≠ some '/') (hne : squeeze line.toList ≠ []) :
    s.attempt line = (s.evaluate line).map fun v ↦ (.print (toString v), s) := by
  refine s.attempt_eq_map_evaluate (fun ht ↦ hne (trim_eq_nil_iff.1 ht)) ?_ fun hm ↦ ?_
  · rw [head?_trim]
    exact hc
  · exact ha (mem_of_mem_trim hm rfl)

/-- Neither blanks nor the way in which a sign is spelled show in what becomes of a line, whether it
is read as a literal, a name or an expression. -/
theorem attempt_respelled (s : Session) (line line' : String)
    (ha : '=' ∉ line.toList) (ha' : '=' ∉ line'.toList)
    (hc : (squeeze line.toList).head? ≠ some '/') (hc' : (squeeze line'.toList).head? ≠ some '/')
    (h : contractSigns (squeeze line.toList) = contractSigns (squeeze line'.toList)) :
    s.attempt line = s.attempt line' := by
  by_cases hne : squeeze line.toList = []
  · have hne' : squeeze line'.toList = [] := by
      rw [← contractSigns_eq_nil_iff, ← h, hne]
      rfl
    rw [s.attempt_of_blank hne, s.attempt_of_blank hne']
  · have hne' : squeeze line'.toList ≠ [] := by
      rw [Ne, ← contractSigns_eq_nil_iff, ← h, contractSigns_eq_nil_iff]
      exact hne
    have he : s.evaluate line = s.evaluate line' := by
      rw [evaluate_eq, evaluate_eq, evaluate_eq_of_contractSigns s.vars h]
    rw [s.attempt_of_not_blank ha hc hne, s.attempt_of_not_blank ha' hc' hne', he]

/-- ` -42` is a literal, and the other line is not. -/
theorem attempt_spaced_literal :
    Session.attempt {} "-+ - - 4 2" = .ok (.print "-42", {}) :=
  (attempt_respelled {} "-+ - - 4 2" " -42" (by decide) (by decide) (by decide) (by decide)
    (by decide)).trans rfl

end Session

end Calculator
