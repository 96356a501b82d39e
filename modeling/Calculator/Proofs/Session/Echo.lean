import Calculator.Proofs.Numeral
import Calculator.Proofs.Session.Listing
import Calculator.Proofs.Session.Shortcuts

namespace Calculator

open Text

variable {line name t : String}

namespace Request

theorem head?_of_ofLine_command {c : Command} (h : ofLine line = .command c) :
    (trim line.toList).head? = some '/' := by
  unfold ofLine at h
  split at h
  · cases h
  · next ht =>
    rw [ht]
    rfl
  · exact absurd h (ofText_ne_command _ _)

theorem ofLine_of_readInt? {v : Int} (h : readInt? line.toList = some v) :
    ofLine line = .literal v := by
  have ht : trim line.toList = line.toList := trim_of_isBlank (isBlank_of_readInt? h)
  obtain ⟨hne, hd⟩ := isDigit_or_sign_of_readInt? h
  have hc : line.toList.head? ≠ some '/' := by
    intro hc
    rcases hd '/' (List.mem_of_mem_head? hc) with he | he | he <;> cases he
  rw [ofLine_eq_ofText (by rwa [ht]) (by rwa [ht]), ht, ofText,
    if_neg (equals_notMem_of_readInt? h), h]

theorem ofLine_of_isIdentifier (h : isIdentifier name.toList = true) :
    ofLine name = .query name := by
  have ht : trim name.toList = name.toList := trim_of_isBlank (isBlank_of_isIdentifier h)
  obtain ⟨hne, ha⟩ := isIdentifier_iff.1 h
  have hc : name.toList.head? ≠ some '/' := by
    intro hc
    cases ha '/' (List.mem_of_mem_head? hc)
  have he : '=' ∉ name.toList := by
    intro he
    cases ha '=' he
  have hn : readInt? name.toList = none := by
    cases hn : readInt? name.toList with
    | none => rfl
    | some v =>
      rw [isIdentifier_eq_false_of_readInt? hn] at h
      cases h
  rw [ofLine_eq_ofText (by rwa [ht]) (by rwa [ht]), ht, ofText, if_neg he, hn]
  simp only [h, if_true, String.ofList_toList]

end Request

namespace Session

/-- What is printed for a line that is no command is an integer. -/
theorem exists_of_attempt_eq_print {s s' : Session} (hc : (trim line.toList).head? ≠ some '/')
    (h : s.attempt line = .ok (.print t, s')) : ∃ v : Int, t = toString v := by
  rw [attempt_eq] at h
  split at h
  · cases h
  · next c hr => exact absurd (Request.head?_of_ofLine_command hr) hc
  · obtain ⟨vars, _, hv⟩ := map_eq_ok_iff.1 h
    cases hv
  · next n _ =>
    cases h
    exact ⟨n, rfl⟩
  · split at h
    · next v _ =>
      cases h
      exact ⟨v, rfl⟩
    · cases h
  · obtain ⟨v, _, hv⟩ := map_eq_ok_iff.1 h
    cases hv
    exact ⟨v, rfl⟩

theorem execute_toString (s : Session) (v : Int) :
    s.execute (toString v) = (.print (toString v), s) := by
  rw [execute, attempt_eq, Request.ofLine_of_readInt? (readInt?_toString v)]

theorem execute_name {s : Session} {v : Int} (h : isIdentifier name.toList = true)
    (hv : s.vars.get? name = some v) : s.execute name = (.print (toString v), s) := by
  rw [execute, attempt_eq, Request.ofLine_of_isIdentifier h]
  simp only [hv]

/-- A printed integer is a numeral. As a line it is printed again, and a name to which it is
assigned has its value. -/
theorem execute_printed :
    (∀ (cs : List Char) (v : Int), readInt? cs = some v ↔ Numeral cs v) ∧
    (∀ v : Int, readInt? (toString v).toList = some v) ∧
    ∀ (s s' : Session) (line t : String), (trim line.toList).head? ≠ some '/' →
      s.attempt line = .ok (.print t, s') →
      ∃ v : Int, t = toString v ∧ ∀ s₁ : Session, s₁.execute t = (.print t, s₁) ∧
        ∀ name : String, name ≠ "" → (∀ c ∈ name.toList, c.isAlpha = true) →
          ∃ vars, s₁.execute (name ++ " = " ++ t) = (.silent, { s₁ with vars := vars }) ∧
            vars.get? = Function.update s₁.vars.get? name (some v) ∧
            execute { s₁ with vars := vars } name = (.print t, { s₁ with vars := vars }) := by
  refine ⟨fun cs v ↦ readInt?_eq_some_iff, readInt?_toString, ?_⟩
  intro s s' line t hc h
  obtain ⟨v, rfl⟩ := exists_of_attempt_eq_print hc h
  refine ⟨v, rfl, fun s₁ ↦ ⟨s₁.execute_toString v, ?_⟩⟩
  intro name hne ha
  have hi : isIdentifier name.toList = true := isIdentifier_iff.2 ⟨by simpa using hne, ha⟩
  have hg := Variables.get?_insert_eq_update s₁.vars name v
  have hv : (s₁.vars.insert name v).get? name = some v := by
    rw [hg, Function.update_self]
  exact ⟨s₁.vars.insert name v, s₁.execute_entry (b := (name, v)) hi, hg, execute_name hi hv⟩

theorem execute_printed_difference :
    ∃ vars, execute {} ("n" ++ " = " ++ "-1180591620717411303417") = (.silent, { vars := vars }) ∧
      execute { vars := vars } "n" = (.print "-1180591620717411303417", { vars := vars }) := by
  have hc : (trim "7 - 2 ^ 70".toList).head? ≠ some '/' := by decide +kernel
  have ha : attempt {} "7 - 2 ^ 70" = .ok (.print "-1180591620717411303417", {}) := by
    decide +kernel
  obtain ⟨v, _, h⟩ := execute_printed.2.2 {} {} "7 - 2 ^ 70" _ hc ha
  have hn : ∀ c ∈ "n".toList, c.isAlpha = true := List.forall_mem_singleton.2 rfl
  obtain ⟨vars, hs, _, hp⟩ := (h {}).2 "n" (by decide) hn
  exact ⟨vars, hs, hp⟩

end Session

end Calculator
