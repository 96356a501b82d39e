import Calculator.Proofs.Assignment
import Calculator.Session.Run
import Mathlib.Data.List.Induction

namespace Calculator

open Text

namespace Session.Step

def line : Step → String
  | execute line | attempt line | evaluate line => line

/-- A step that gives a name a value. A line that is read as an expression never does. -/
def Assigns (ρ : String → Option Int) (name : String) (v : Int) : Step → Prop
  | execute line | attempt line => Calculator.Assigns ρ (trim line.toList) name v
  | evaluate _ => False

end Session.Step

variable {ρ : String → Option Int} {line name : String} {v : Int}

theorem Assigns.mem {cs : List Char} (h : Assigns ρ cs name v) : '=' ∈ cs := by
  obtain ⟨_, _, ⟨_, _, rfl, _⟩, _⟩ := h
  exact List.mem_append_right _ List.mem_cons_self

theorem Assigns.head_ne_slash {cs : List Char} (h : Assigns ρ cs name v) :
    ∀ ds, cs ≠ '/' :: ds := by
  obtain ⟨hi, _, ⟨l, r, rfl, _, _, hl, _⟩, _⟩ := h
  obtain ⟨hne, ha⟩ := isIdentifier_iff.1 hi
  intro ds he
  rcases List.append_eq_cons_iff.1 he with ⟨rfl, _⟩ | ⟨l', rfl, _⟩
  · exact hne hl.symm
  · have hs : '/' ∈ squeeze (trim ('/' :: l')) := by
      rw [squeeze_trim]
      exact mem_squeeze.2 ⟨List.mem_cons_self, rfl⟩
    have hm := (mem_squeeze.1 hs).1
    rw [hl] at hm
    cases ha '/' hm

namespace Request

theorem trim_eq_nil_of_ofLine (h : ofLine line = .blank) : trim line.toList = [] := by
  unfold ofLine at h
  split at h
  · next ht => exact ht
  · cases h
  · exact absurd h (ofText_ne_blank _)

theorem eq_trim_of_ofLine {text : String} (h : ofLine line = .assignment text) :
    text.toList = trim line.toList := by
  unfold ofLine at h
  split at h
  · cases h
  · cases h
  · unfold ofText at h
    split at h
    · cases h
      exact String.toList_ofList
    · split at h
      · cases h
      · split at h <;> cases h

theorem ofLine_of_assigns (h : Assigns ρ (trim line.toList) name v) :
    ofLine line = .assignment (String.ofList (trim line.toList)) := by
  have hm := h.mem
  have hh := h.head_ne_slash
  unfold ofLine
  split
  · next he =>
    rw [he] at hm
    cases hm
  · next ds he => exact absurd he (hh ds)
  · rw [ofText, if_pos hm]

end Request

namespace Session

theorem command_ne_silent (s : Session) (c : Command) : s.command c ≠ .silent := by
  cases c <;> exact nofun

theorem attempt_of_assigns {s : Session} (h : Assigns s.vars.get? (trim line.toList) name v) :
    s.attempt line = .ok (.silent, { s with vars := s.vars.insert name v }) := by
  have ha : s.vars.assign (String.ofList (trim line.toList)) = .ok (s.vars.insert name v) := by
    refine Variables.assign_eq_ok_iff.2 ⟨name, v, ?_, rfl⟩
    rw [String.toList_ofList]
    exact h
  rw [attempt_eq, Request.ofLine_of_assigns h]
  simp only
  rw [ha]
  rfl

theorem attempt_of_not_assigns {s : Session}
    (h : ∀ name v, ¬ Assigns s.vars.get? (trim line.toList) name v) :
    (∃ e, s.attempt line = .error e) ∨
      ∃ o, s.attempt line = .ok (o, s) ∧ (o = .silent → trim line.toList = []) := by
  rw [attempt_eq]
  split
  · next hr => exact .inr ⟨.silent, rfl, fun _ ↦ Request.trim_eq_nil_of_ofLine hr⟩
  · next c hr => exact .inr ⟨_, rfl, fun h ↦ absurd h (s.command_ne_silent c)⟩
  · next text hr =>
    cases ha : s.vars.assign text with
    | error e => exact .inl ⟨_, rfl⟩
    | ok vars' =>
      obtain ⟨name, v, hv, _⟩ := Variables.assign_eq_ok_iff.1 ha
      rw [Request.eq_trim_of_ofLine hr] at hv
      exact absurd hv (h name v)
  · exact .inr ⟨_, rfl, nofun⟩
  · split
    · exact .inr ⟨_, rfl, nofun⟩
    · exact .inl ⟨_, rfl⟩
  · next text hr =>
    cases s.evaluate text with
    | error e => exact .inl ⟨e, rfl⟩
    | ok v => exact .inr ⟨_, rfl, nofun⟩

theorem step_of_assigns {s : Session} {x : Step} (h : x.Assigns s.vars.get? name v) :
    s.step x = (.outcome .silent, { s with vars := s.vars.insert name v }) := by
  cases x with
  | execute line | attempt line => simp only [step, execute, attempt_of_assigns h]
  | evaluate line => cases h

theorem step_of_not_assigns {s : Session} {x : Step}
    (h : ∀ name v, ¬ x.Assigns s.vars.get? name v) :
    (s.step x).2 = s ∧ ((s.step x).1 = .outcome .silent → trim x.line.toList = []) := by
  cases x with
  | execute line =>
    rcases attempt_of_not_assigns h with ⟨e, he⟩ | ⟨o, ho, hb⟩
    · have hs : s.step (.execute line) = (.outcome (.print e.message), s) := by
        simp only [step, execute, he]
      rw [hs]
      exact ⟨rfl, nofun⟩
    · have hs : s.step (.execute line) = (.outcome o, s) := by simp only [step, execute, ho]
      rw [hs]
      exact ⟨rfl, fun h ↦ hb (Answer.outcome.inj h)⟩
  | attempt line =>
    rcases attempt_of_not_assigns h with ⟨e, he⟩ | ⟨o, ho, hb⟩
    · have hs : s.step (.attempt line) = (.failure e, s) := by simp only [step, he]
      rw [hs]
      exact ⟨rfl, nofun⟩
    · have hs : s.step (.attempt line) = (.outcome o, s) := by simp only [step, ho]
      rw [hs]
      exact ⟨rfl, fun h ↦ hb (Answer.outcome.inj h)⟩
  | evaluate line =>
    rw [step]
    cases s.evaluate line with
    | error e => exact ⟨rfl, nofun⟩
    | ok v => exact ⟨rfl, nofun⟩

/-- A step either makes the one binding that its line tells, without a word, or leaves the session
as it is. -/
theorem step_cases (s : Session) (x : Step) :
    (∃ name v, x.Assigns s.vars.get? name v ∧
      s.step x = (.outcome .silent, { s with vars := s.vars.insert name v })) ∨
    ((∀ name v, ¬ x.Assigns s.vars.get? name v) ∧ (s.step x).2 = s ∧
      ((s.step x).1 = .outcome .silent → trim x.line.toList = [])) := by
  by_cases h : ∃ name v, x.Assigns s.vars.get? name v
  · obtain ⟨name, v, h⟩ := h
    exact .inl ⟨name, v, h, step_of_assigns h⟩
  · have h' : ∀ name v, ¬ x.Assigns s.vars.get? name v := fun name v hx ↦ h ⟨name, v, hx⟩
    exact .inr ⟨h', step_of_not_assigns h'⟩

theorem contains_step (s : Session) (x : Step) {name : String}
    (h : s.vars.contains name = true) : (s.step x).2.vars.contains name = true := by
  rcases step_cases s x with ⟨other, v, _, hs⟩ | ⟨_, hs, _⟩
  · rw [hs, Variables.contains_insert, h, Bool.or_true]
  · rw [hs, h]

theorem size_step_le (s : Session) (x : Step) :
    (s.step x).2.vars.size ≤ s.vars.size + 1 := by
  rcases step_cases s x with ⟨name, v, _, hs⟩ | ⟨_, hs, _⟩
  · rw [hs]
    exact s.vars.size_insert_le name v
  · rw [hs]
    exact Nat.le_succ _

/-- The assignments among some steps carried out one after the other, without a session. -/
inductive Replay : (String → Option Int) → List Step → (String → Option Int) → Prop
  | nil (ρ : String → Option Int) : Replay ρ [] ρ
  | assign {ρ final : String → Option Int} {x : Step} {xs : List Step} {name : String} {v : Int} :
      x.Assigns ρ name v → Replay (Function.update ρ name (some v)) xs final →
        Replay ρ (x :: xs) final
  | skip {ρ final : String → Option Int} {x : Step} {xs : List Step} :
      (∀ name v, ¬ x.Assigns ρ name v) → Replay ρ xs final → Replay ρ (x :: xs) final

theorem replay_run (s : Session) (xs : List Step) :
    Replay s.vars.get? xs (s.run xs).2.vars.get? := by
  induction xs generalizing s with
  | nil => exact .nil s.vars.get?
  | cons x xs ih =>
    have h := ih (s.step x).2
    rcases step_cases s x with ⟨name, v, hx, hs⟩ | ⟨hx, hs, _⟩
    · refine .assign hx ?_
      rw [hs] at h
      rw [run, hs, ← Variables.get?_insert_eq_update]
      exact h
    · refine .skip hx ?_
      rw [hs] at h
      rw [run, hs]
      exact h

def after (verbose : Bool) (xs : List Step) : Session := (run ⟨∅, verbose⟩ xs).2

theorem run_append_snd (s : Session) (xs ys : List Step) :
    (s.run (xs ++ ys)).2 = ((s.run xs).2.run ys).2 := by
  induction xs generalizing s with
  | nil => rfl
  | cons x xs ih => exact ih (s.step x).2

theorem after_concat (verbose : Bool) (xs : List Step) (x : Step) :
    after verbose (xs ++ [x]) = ((after verbose xs).step x).2 :=
  run_append_snd _ xs [x]

/-- A value that stands as a literal on the right side of an assignment among some steps. -/
def Introduced (verbose : Bool) (xs : List Step) (v : Int) : Prop :=
  ∃ ys x zs name right, xs = ys ++ x :: zs ∧ x.Assigns (after verbose ys).vars.get? name v ∧
    ((after verbose ys).step x).1 = .outcome .silent ∧
    Sides (trim x.line.toList) name.toList right ∧ readInt? right = some v

theorem Introduced.concat {verbose : Bool} {xs : List Step} (h : Introduced verbose xs v)
    (x : Step) : Introduced verbose (xs ++ [x]) v := by
  obtain ⟨ys, x', zs, name, right, rfl, hx⟩ := h
  refine ⟨ys, x', zs ++ [x], name, right, ?_, hx⟩
  rw [List.append_assoc, List.cons_append]

theorem Step.Assigns.identifier {x : Step} (h : x.Assigns ρ name v) :
    isIdentifier name.toList = true := by
  cases x with
  | execute line | attempt line => exact h.1
  | evaluate line => cases h

theorem Step.Assigns.right {x : Step} (h : x.Assigns ρ name v) :
    ∃ right, Sides (trim x.line.toList) name.toList right ∧
      (readInt? right = some v ∨
        (isIdentifier right = true ∧ ρ (String.ofList right) = some v)) := by
  cases x with
  | execute line | attempt line => exact h.2
  | evaluate line => cases h

theorem introduced_of_get? {verbose : Bool} {xs : List Step}
    (h : (after verbose xs).vars.get? name = some v) :
    isIdentifier name.toList = true ∧ Introduced verbose xs v := by
  -- on the last step, since a copy takes its value from the session before it
  induction xs using List.reverseRecOn generalizing name v with
  | nil => cases h
  | append_singleton xs x ih =>
    rw [after_concat] at h
    rcases step_cases (after verbose xs) x with ⟨other, w, hx, hs⟩ | ⟨_, hs, _⟩
    · rw [hs, Variables.get?_insert] at h
      split at h
      · next he =>
        cases h
        cases he
        refine ⟨hx.identifier, ?_⟩
        obtain ⟨right, hr, hn | ⟨_, hc⟩⟩ := hx.right
        · exact ⟨xs, x, [], _, right, rfl, hx, congrArg Prod.fst hs, hr, hn⟩
        · exact (ih hc).2.concat x
      · exact (ih h).imp_right (.concat · x)
    · rw [hs] at h
      exact (ih h).imp_right (.concat · x)

/-- The variables of a session are the replay of its successful assignments. -/
theorem vars_after (verbose : Bool) (xs : List Step) :
    Replay (fun _ ↦ none) xs (after verbose xs).vars.get? ∧
    (∀ ys x zs, xs = ys ++ x :: zs →
      ((∃ name v, x.Assigns (after verbose ys).vars.get? name v ∧
          ((after verbose ys).step x).1 = .outcome .silent ∧
          (after verbose (ys ++ [x])).vars.get? =
            Function.update (after verbose ys).vars.get? name (some v)) ∨
        ((∀ name v, ¬ x.Assigns (after verbose ys).vars.get? name v) ∧
          (after verbose (ys ++ [x])).vars = (after verbose ys).vars ∧
          (((after verbose ys).step x).1 = .outcome .silent → trim x.line.toList = []))) ∧
      (∀ name, (after verbose ys).vars.contains name = true →
        (after verbose (ys ++ [x])).vars.contains name = true) ∧
      (after verbose (ys ++ [x])).vars.size ≤ (after verbose ys).vars.size + 1) ∧
    ∀ name v, (after verbose xs).vars.get? name = some v →
      isIdentifier name.toList = true ∧ Introduced verbose xs v := by
  refine ⟨replay_run ⟨∅, verbose⟩ xs, fun ys x zs _ ↦ ?_, fun name v ↦ introduced_of_get?⟩
  rw [after_concat]
  refine ⟨?_, fun name ↦ contains_step _ x, size_step_le _ x⟩
  rcases step_cases (after verbose ys) x with ⟨name, v, hx, hs⟩ | ⟨hx, hs, hb⟩
  · refine .inl ⟨name, v, hx, congrArg Prod.fst hs, ?_⟩
    rw [hs]
    exact Variables.get?_insert_eq_update _ name v
  · exact .inr ⟨hx, congrArg vars hs, hb⟩

/-- A copy outlives a new value of the variable that it is made from. -/
theorem introduced_by_copy :
    Introduced false [.execute "x = 5", .attempt "y = x", .execute "x = 6"] 5 ∧
      (after false ([.execute "x = 5", .attempt "y = x"] ++ [.execute "x = 6"])).vars.contains "y" =
        true := by
  obtain ⟨-, hstep, hvalue⟩ :=
    vars_after false [.execute "x = 5", .attempt "y = x", .execute "x = 6"]
  obtain ⟨-, hkeep, -⟩ := hstep [.execute "x = 5", .attempt "y = x"] (.execute "x = 6") [] rfl
  exact ⟨(hvalue "y" 5 rfl).2, hkeep "y" rfl⟩

end Session

end Calculator
