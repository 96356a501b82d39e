namespace Calculator.Text

/-- The lines of a text. A newline, or a carriage return and a newline, ends a line; what follows
the last of them is a line too unless it is empty. -/
def lines : List Char → List (List Char)
  | [] => []
  | '\n' :: cs => [] :: lines cs
  | '\r' :: '\n' :: cs => [] :: lines cs
  | c :: cs =>
    match lines cs with
    | [] => [[c]]
    | l :: ls => (c :: l) :: ls

theorem lines_ne_nil {cs : List Char} (h : cs ≠ []) : lines cs ≠ [] := by
  fun_cases lines cs with
  | case1 => exact absurd rfl h
  | case2 | case3 | case4 | case5 => exact List.cons_ne_nil _ _

theorem lines_cons {c : Char} {cs l : List Char} {ls : List (List Char)} (hc : c ≠ '\n')
    (hr : ∀ ds, c = '\r' → cs ≠ '\n' :: ds) (h : lines cs = l :: ls) :
    lines (c :: cs) = (c :: l) :: ls := by
  rw [lines, h]
  · exact hc
  · exact hr

theorem append_newline_ne {c : Char} {cs : List Char} (hend : ¬ (c = '\r' ∧ cs = []))
    (hr : ∀ es, c = '\r' → cs ≠ '\n' :: es) (ds es : List Char) (hc : c = '\r') :
    cs ++ '\n' :: ds ≠ '\n' :: es := by
  intro h
  cases cs with
  | nil => exact hend ⟨hc, rfl⟩
  | cons d cs =>
    have hd : d = '\n' := (List.cons.inj h).1
    exact hr cs hc (congrArg (· :: cs) hd)

theorem lines_append_cons {c : Char} {cs ds : List Char} (hc : c ≠ '\n')
    (hr : ∀ es, c = '\r' → cs ≠ '\n' :: es)
    (h : lines (cs ++ '\n' :: ds) = lines (cs ++ ['\n']) ++ lines ds) :
    lines (c :: (cs ++ '\n' :: ds)) = lines (c :: (cs ++ ['\n'])) ++ lines ds := by
  by_cases hend : c = '\r' ∧ cs = []
  · obtain ⟨rfl, rfl⟩ := hend
    rfl
  · have hr' := append_newline_ne hend hr
    have hne : cs ++ ['\n'] ≠ [] := by simp
    obtain ⟨l, ls, hl⟩ := List.exists_cons_of_ne_nil (lines_ne_nil hne)
    rw [hl] at h
    rw [lines_cons hc (hr' []) hl, lines_cons hc (hr' ds) h]
    rfl

/-- Behind the end of a line the lines begin anew. -/
theorem lines_append (cs ds : List Char) :
    lines (cs ++ '\n' :: ds) = lines (cs ++ ['\n']) ++ lines ds := by
  induction cs using lines.induct with
  | case1 => rfl
  | case2 cs ih => simp only [List.cons_append, lines, ih]
  | case3 cs ih => simp only [List.cons_append, lines, ih]
  | case4 c cs hc hr _ ih => exact lines_append_cons hc hr ih
  | case5 c cs hc hr l ls _ ih => exact lines_append_cons hc hr ih

/-- The end of a line takes along a carriage return that the line itself ends with. -/
theorem lines_newline {cs : List Char} (h : '\n' ∉ cs) :
    ∃ body, lines (cs ++ ['\n']) = [body] ∧ (cs = body ∨ cs = body ++ ['\r']) := by
  induction cs with
  | nil => exact ⟨[], rfl, .inl rfl⟩
  | cons c cs ih =>
    have hc : c ≠ '\n' := fun he ↦ h (he ▸ List.mem_cons_self)
    have hcs : '\n' ∉ cs := fun hm ↦ h (List.mem_cons_of_mem _ hm)
    by_cases hend : c = '\r' ∧ cs = []
    · obtain ⟨rfl, rfl⟩ := hend
      exact ⟨[], rfl, .inr rfl⟩
    · obtain ⟨body, hb, hbody⟩ := ih hcs
      have hr : ∀ es, c = '\r' → cs ≠ '\n' :: es := fun es _ he ↦ hcs (he ▸ List.mem_cons_self)
      refine ⟨c :: body, lines_cons hc (append_newline_ne hend hr []) hb, ?_⟩
      exact hbody.imp (congrArg (c :: ·)) (congrArg (c :: ·))

end Calculator.Text
