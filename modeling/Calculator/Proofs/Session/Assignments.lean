import Calculator.Proofs.Numeral
import Calculator.Proofs.Session.Replay

namespace Calculator

open Text

def Letters (cs : List Char) : Prop := cs ≠ [] ∧ ∀ c ∈ cs, c.isAlpha = true

/-- What is wrong with a text as an assignment of a value: the first of its faults, from the number
of its equals signs to its right side. -/
inductive Misassigns (ρ : String → Option Int) (cs : List Char) : AssignmentError → Prop
  | equals : cs.count '=' ≠ 1 → Misassigns ρ cs .malformed
  | left {name right : List Char} :
      Sides cs name right → ¬ Letters name → Misassigns ρ cs .invalidIdentifier
  | unknown {name right : List Char} :
      Sides cs name right → Letters name → Letters right → ρ (String.ofList right) = none →
        Misassigns ρ cs (.unknownVariable (String.ofList right))
  | right {name right : List Char} :
      Sides cs name right → Letters name → ¬ Letters right → (∀ v, ¬ Numeral right v) →
        Misassigns ρ cs .malformed

variable {ρ : String → Option Int} {cs name right name' right' : List Char} {v : Int}

theorem isIdentifier_iff_letters : isIdentifier cs = true ↔ Letters cs := isIdentifier_iff

theorem Letters.readInt? (h : Letters cs) : readInt? cs = none := by
  cases hn : Calculator.readInt? cs with
  | none => rfl
  | some n =>
    have hi := isIdentifier_eq_false_of_readInt? hn
    rw [isIdentifier_iff_letters.2 h] at hi
    cases hi

theorem Sides.unique (h : Sides cs name right) (h' : Sides cs name' right') :
    name = name' ∧ right = right' := by
  obtain ⟨v, w, hc, hv, hw, rfl, rfl⟩ := h
  obtain ⟨v', w', hc', hv', hw', rfl, rfl⟩ := h'
  have hs := (splitOn_eq_pair_iff.2 ⟨hc, hv, hw⟩).symm.trans
    (splitOn_eq_pair_iff.2 ⟨hc', hv', hw'⟩)
  obtain ⟨rfl, hr⟩ := List.cons.inj hs
  obtain ⟨rfl, _⟩ := List.cons.inj hr
  exact ⟨rfl, rfl⟩

theorem equals_notMem_of_isBlank {ws : List Char} (h : ∀ c ∈ ws, isBlank c = true) : '=' ∉ ws := by
  intro hm
  cases h '=' hm

/-- The sides of a text do not tell whether it has been trimmed. -/
theorem sides_trim : Sides (trim cs) name right ↔ Sides cs name right := by
  obtain ⟨us, ws, hcs, hu, hw⟩ := exists_trim cs
  have hout : ∀ {name right}, Sides (trim cs) name right → Sides cs name right := by
    rintro name right ⟨l, r, ht, hl, hr, rfl, rfl⟩
    refine ⟨us ++ l, r ++ ws, ?_, ?_, ?_, trim_blanks_append l hu, trim_append_blanks r hw⟩
    · rw [hcs, ht, List.append_assoc, List.append_assoc, List.cons_append]
    · exact List.mem_append.not.2 (not_or.2 ⟨equals_notMem_of_isBlank hu, hl⟩)
    · exact List.mem_append.not.2 (not_or.2 ⟨hr, equals_notMem_of_isBlank hw⟩)
  refine ⟨hout, fun h ↦ ?_⟩
  have hone : (trim cs).count '=' = 1 := by
    have hc := exists_sides_iff.1 ⟨_, _, h⟩
    rw [hcs, List.count_append, List.count_append,
      List.count_eq_zero.2 (equals_notMem_of_isBlank hu),
      List.count_eq_zero.2 (equals_notMem_of_isBlank hw)] at hc
    omega
  obtain ⟨_, _, ht⟩ := exists_sides_iff.2 hone
  obtain ⟨rfl, rfl⟩ := (hout ht).unique h
  exact ht

namespace Variables

variable {vars : Variables} {line : String} {e : AssignmentError}

theorem rightSide_eq_error_iff :
    vars.rightSide cs = .error e ↔
      (Letters cs ∧ vars.get? (String.ofList cs) = none ∧
        e = .unknownVariable (String.ofList cs)) ∨
      (¬ Letters cs ∧ (∀ v, ¬ Numeral cs v) ∧ e = .malformed) := by
  unfold rightSide
  split
  · next n hn =>
    have hl : ¬ Letters cs := fun hl ↦ by
      rw [hl.readInt?] at hn
      cases hn
    have hnum : ¬ ∀ v, ¬ Numeral cs v := fun h ↦ h n (readInt?_eq_some_iff.1 hn)
    simp [hl, hnum]
  · next hn =>
    have hnum : ∀ v, ¬ Numeral cs v := fun v h ↦ by
      rw [readInt?_eq_some_iff.2 h] at hn
      cases hn
    by_cases hl : Letters cs
    · rw [if_pos (isIdentifier_iff_letters.2 hl)]
      cases vars.get? (String.ofList cs) <;> simp [hl, eq_comm]
    · rw [if_neg (isIdentifier_iff_letters.not.2 hl)]
      simp [hl, hnum, eq_comm]

theorem assign_eq_error_iff :
    vars.assign line = .error e ↔ Misassigns vars.get? line.toList e := by
  constructor
  · intro h
    by_cases hc : line.toList.count '=' = 1
    · obtain ⟨name, right, hs⟩ := exists_sides_iff.2 hc
      rw [assign_of_sides hs] at h
      by_cases hl : Letters name
      · rw [if_pos (isIdentifier_iff_letters.2 hl), map_eq_error_iff, rightSide_eq_error_iff] at h
        rcases h with ⟨hr, hn, rfl⟩ | ⟨hr, hn, rfl⟩
        · exact .unknown hs hl hr hn
        · exact .right hs hl hr hn
      · rw [if_neg (isIdentifier_iff_letters.not.2 hl)] at h
        cases h
        exact .left hs hl
    · rw [assign_of_count_ne_one hc] at h
      cases h
      exact .equals hc
  · intro h
    cases h with
    | equals hc => exact assign_of_count_ne_one hc
    | left hs hl => rw [assign_of_sides hs, if_neg (isIdentifier_iff_letters.not.2 hl)]
    | unknown hs hl hr hn =>
      rw [assign_of_sides hs, if_pos (isIdentifier_iff_letters.2 hl), map_eq_error_iff]
      exact rightSide_eq_error_iff.2 (.inl ⟨hr, hn, rfl⟩)
    | right hs hl hr hn =>
      rw [assign_of_sides hs, if_pos (isIdentifier_iff_letters.2 hl), map_eq_error_iff]
      exact rightSide_eq_error_iff.2 (.inr ⟨hr, hn, rfl⟩)

end Variables

theorem assigns_trim {name : String} : Assigns ρ (trim cs) name v ↔ Assigns ρ cs name v := by
  simp only [Assigns, sides_trim]

theorem assigns_iff {name : String} :
    Assigns ρ cs name v ↔
      Letters name.toList ∧ ∃ right, Sides cs name.toList right ∧
        (Numeral right v ∨ Letters right ∧ ρ (String.ofList right) = some v) := by
  simp only [Assigns, isIdentifier_iff_letters, readInt?_eq_some_iff]

namespace Session

theorem execute_of_assign {s : Session} {line : String} {vars : Variables}
    (h : s.vars.assign line = .ok vars) : s.execute line = (.silent, { s with vars := vars }) := by
  obtain ⟨name, v, ha, rfl⟩ := Variables.assign_eq_ok_iff.1 h
  rw [execute, attempt_of_assigns (assigns_trim.2 ha)]

theorem execute_of_assign_error {s : Session} {line : String} {e : AssignmentError}
    (h : s.vars.assign line = .error e) : (s.execute line).2 = s := by
  have hn : ∀ name v, ¬ Step.Assigns s.vars.get? name v (.execute line) := by
    intro name v ha
    rw [Variables.assign_eq_ok_iff.2 ⟨name, v, assigns_trim.1 ha, rfl⟩] at h
    cases h
  exact (step_of_not_assigns hn).1

/-- Every name that a session comes to define is of letters. -/
theorem letters_of_get?_after {verbose : Bool} {xs : List Step}
    (h : (after verbose xs).vars.get? (String.ofList right) = some v) : Letters right := by
  have hi := (introduced_of_get? h).1
  rw [String.toList_ofList] at hi
  exact isIdentifier_iff_letters.1 hi

/-- For the variables of a session it is enough to look up the name on the right side. -/
theorem assign_after_eq_ok_iff {verbose : Bool} {xs : List Step} {line : String}
    {vars : Variables} :
    (after verbose xs).vars.assign line = .ok vars ↔
      ∃ name v,
        (Letters name.toList ∧ ∃ right, Sides line.toList name.toList right ∧
          (Numeral right v ∨ (after verbose xs).vars.get? (String.ofList right) = some v)) ∧
        vars = (after verbose xs).vars.insert name v := by
  have hr : ∀ (right : List Char) (v : Int),
      Letters right ∧ (after verbose xs).vars.get? (String.ofList right) = some v ↔
        (after verbose xs).vars.get? (String.ofList right) = some v :=
    fun _ _ ↦ and_iff_right_of_imp letters_of_get?_after
  simp only [Variables.assign_eq_ok_iff, assigns_iff, hr]

/-- An assignment changes the value of one name if both of its sides are in order, and otherwise
tells its first fault. A session that carries it out has the new variables, or is as it was. -/
theorem assign_effect (s : Session) (line : String) :
    (∀ vars, s.vars.assign line = .ok vars ↔
      ∃ name v,
        (Letters name.toList ∧ ∃ right, Sides line.toList name.toList right ∧
          (Numeral right v ∨ Letters right ∧ s.vars.get? (String.ofList right) = some v)) ∧
        vars = s.vars.insert name v ∧
        vars.get? = Function.update s.vars.get? name (some v)) ∧
    (∀ e, s.vars.assign line = .error e ↔ Misassigns s.vars.get? line.toList e) ∧
    (∀ vars, s.vars.assign line = .ok vars →
      s.execute line = (.silent, { s with vars := vars })) ∧
    (∀ e, s.vars.assign line = .error e → (s.execute line).2 = s) ∧
    ∀ verbose xs, s = after verbose xs → ∀ vars, s.vars.assign line = .ok vars ↔
      ∃ name v,
        (Letters name.toList ∧ ∃ right, Sides line.toList name.toList right ∧
          (Numeral right v ∨ s.vars.get? (String.ofList right) = some v)) ∧
        vars = s.vars.insert name v := by
  refine ⟨fun vars ↦ ?_, fun e ↦ Variables.assign_eq_error_iff, fun vars ↦ execute_of_assign,
    fun e ↦ execute_of_assign_error, ?_⟩
  · simp only [Variables.assign_eq_ok_iff, ← assigns_iff]
    constructor
    · rintro ⟨name, v, ha, rfl⟩
      exact ⟨name, v, ha, rfl, s.vars.get?_insert_eq_update name v⟩
    · rintro ⟨name, v, ha, hv, -⟩
      exact ⟨name, v, ha, hv⟩
  · rintro verbose xs rfl vars
    exact assign_after_eq_ok_iff

theorem assign_copied_value :
    (after false [.execute "x = -05"]).vars.assign " y=x" =
        .ok ((after false [.execute "x = -05"]).vars.insert "y" (-5)) ∧
      (execute (after false [.execute "x = -05"]) " y=x").1 = .silent ∧
      (execute (after false [.execute "x = -05"]) "y = x = 1").2 =
        after false [.execute "x = -05"] := by
  obtain ⟨-, -, hsilent, -, hok⟩ := assign_effect (after false [.execute "x = -05"]) " y=x"
  obtain ⟨-, herror, -, hsame, -⟩ := assign_effect (after false [.execute "x = -05"]) "y = x = 1"
  have hy : Letters "y".toList := isIdentifier_iff_letters.1 rfl
  have hs : Sides " y=x".toList "y".toList ['x'] :=
    ⟨[' ', 'y'], ['x'], rfl, by decide, by decide, rfl, rfl⟩
  have ha := (hok false _ rfl _).2 ⟨"y", -5, ⟨hy, ['x'], hs, .inr rfl⟩, rfl⟩
  have he := (herror .malformed).2 (.equals (by decide))
  exact ⟨ha, congrArg Prod.fst (hsilent _ ha), hsame _ he⟩

end Session

end Calculator
