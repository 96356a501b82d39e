import Calculator.Proofs.Session.Replay
import Calculator.Session.Console

namespace Calculator

def pick {α : Type} (keep : Nat → Bool) : List α → List α
  | [] => []
  | a :: as =>
    let rest := pick (fun i ↦ keep (i + 1)) as
    if keep 0 then a :: rest else rest

namespace Console

theorem evaluate_eq (c : Console) (line : String) :
    c.evaluate line =
      (c.session.evaluate line, { c with scanner := (c.scanner.tokenize line).2 }) := by
  have ht : (c.scanner.tokenize line).1 = tokenize line := c.scanner.tokenize_fst line
  rw [evaluate, ht]
  rfl

theorem attempt_eq (c : Console) (line : String) :
    ∃ scanner, c.attempt line =
      match c.session.attempt line with
      | .ok (o, s) => (.ok o, ⟨s, scanner⟩)
      | .error e => (.error e, ⟨c.session, scanner⟩) := by
  cases hr : Request.ofLine line with
  | expression text =>
    refine ⟨(c.scanner.tokenize text).2, ?_⟩
    simp only [attempt, Session.attempt_eq, hr, evaluate_eq]
    cases c.session.evaluate text <;> rfl
  | blank | command | assignment | literal | query =>
    refine ⟨c.scanner, ?_⟩
    cases hs : c.session.attempt line with
    | error e => simp only [attempt, hr, hs]
    | ok r =>
      obtain ⟨o, s⟩ := r
      simp only [attempt, hr, hs]

/-- The scanner shows neither in the answer nor in what becomes of the session. -/
theorem step_eq (c : Console) (x : Session.Step) :
    ∃ scanner, c.step x = ((c.session.step x).1, ⟨(c.session.step x).2, scanner⟩) := by
  cases x with
  | execute line =>
    obtain ⟨scanner, h⟩ := c.attempt_eq line
    refine ⟨scanner, ?_⟩
    simp only [step, execute, h, Session.step, Session.execute]
    cases c.session.attempt line <;> rfl
  | attempt line =>
    obtain ⟨scanner, h⟩ := c.attempt_eq line
    refine ⟨scanner, ?_⟩
    simp only [step, h, Session.step]
    cases c.session.attempt line <;> rfl
  | evaluate line =>
    refine ⟨(c.scanner.tokenize line).2, ?_⟩
    simp only [step, evaluate_eq, Session.step]
    cases c.session.evaluate line <;> rfl

theorem run_eq (c : Console) (xs : List Session.Step) :
    ∃ scanner, c.run xs = ((c.session.run xs).1, ⟨(c.session.run xs).2, scanner⟩) := by
  induction xs generalizing c with
  | nil => exact ⟨c.scanner, rfl⟩
  | cons x xs ih =>
    obtain ⟨scanner, hs⟩ := c.step_eq x
    obtain ⟨scanner', hr⟩ := ih ⟨(c.session.step x).2, scanner⟩
    refine ⟨scanner', ?_⟩
    simp only [run, hs, hr, Session.run]

end Console

namespace Session

def Step.isAssignment : Step → Bool
  | execute line | attempt line =>
    match Request.ofLine line with
    | .assignment _ => true
    | .blank | .command _ | .literal _ | .query _ | .expression _ => false
  | evaluate _ => false

theorem Step.Assigns.isAssignment {ρ : String → Option Int} {x : Step} {name : String} {v : Int}
    (h : x.Assigns ρ name v) : x.isAssignment = true := by
  cases x with
  | execute line | attempt line => simp only [Step.isAssignment, Request.ofLine_of_assigns h]
  | evaluate line => cases h

theorem step_snd_eq_self {s : Session} {x : Step}
    (h : ¬ (x.isAssignment = true ∧ (s.step x).1 = .outcome .silent)) : (s.step x).2 = s := by
  rcases step_cases s x with ⟨name, v, hx, hs⟩ | ⟨_, hs, _⟩
  · have hc : (s.step x).1 = .outcome .silent := by rw [hs]
    exact absurd ⟨hx.isAssignment, hc⟩ h
  · exact hs

theorem run_pick_of_idle {s : Session} {xs : List Step} {keep : Nat → Bool}
    (h : ∀ i (hi : i < xs.length), keep i = false →
      ((s.run (xs.take i)).2.step xs[i]).2 = (s.run (xs.take i)).2) :
    s.run (pick keep xs) = (pick keep (s.run xs).1, (s.run xs).2) := by
  induction xs generalizing s keep with
  | nil => rfl
  | cons x xs ih =>
    have ht : (s.step x).2.run (pick (fun i ↦ keep (i + 1)) xs) =
        (pick (fun i ↦ keep (i + 1)) ((s.step x).2.run xs).1, ((s.step x).2.run xs).2) := by
      apply ih
      intro i hi hk
      exact h (i + 1) (Nat.succ_lt_succ hi) hk
    cases hk : keep 0 with
    | true => simp only [pick, hk, if_true, run, ht]
    | false =>
      have hx : (s.step x).2 = s := h 0 (Nat.zero_lt_succ _) hk
      rw [hx] at ht
      simp only [pick, hk, Bool.false_eq_true, if_false, run, hx, ht]

end Session

namespace Console

def Commits (c : Console) (x : Session.Step) : Prop :=
  x.isAssignment = true ∧ (c.step x).1 = .outcome .silent

instance (c : Console) (x : Session.Step) : Decidable (c.Commits x) :=
  inferInstanceAs (Decidable (_ ∧ _))

/-- Lines that assign nothing leave no trace: without any of them the other lines are answered
alike, and the session ends up the same. -/
theorem run_pick (c : Console) (xs : List Session.Step) (keep : Nat → Bool)
    (h : ∀ i (hi : i < xs.length), keep i = false → ¬ (c.run (xs.take i)).2.Commits xs[i]) :
    (c.run (pick keep xs)).1 = pick keep (c.run xs).1 ∧
      (c.run (pick keep xs)).2.session = (c.run xs).2.session := by
  have hs : c.session.run (pick keep xs) =
      (pick keep (c.session.run xs).1, (c.session.run xs).2) := by
    apply Session.run_pick_of_idle
    intro i hi hk
    obtain ⟨scanner, hr⟩ := c.run_eq (xs.take i)
    obtain ⟨scanner', hx⟩ := step_eq ⟨(c.session.run (xs.take i)).2, scanner⟩ xs[i]
    have hc := h i hi hk
    rw [hr, Commits, hx] at hc
    exact Session.step_snd_eq_self hc
  obtain ⟨scanner, hw⟩ := c.run_eq xs
  obtain ⟨scanner', hp⟩ := c.run_eq (pick keep xs)
  simp only [hp, hw, hs, and_self]

/-- The scanner stops behind the `2` of `2 ?`; the minus of the next line is a sign all the same. -/
theorem run_behind_invalid_character :
    (run {} [.execute "x = 2", .attempt "-x", .execute "y = x"]).1 =
        [.outcome .silent, .outcome (.print "-2"), .outcome .silent] ∧
      (run {} [.execute "x = 2", .attempt "-x", .execute "y = x"]).2.session =
        (run {} [.execute "x = 2", .evaluate "2 ?", .attempt "-x", .execute "/exit",
          .execute "y = x", .attempt "y = z"]).2.session :=
  run_pick {} [.execute "x = 2", .evaluate "2 ?", .attempt "-x", .execute "/exit",
    .execute "y = x", .attempt "y = z"] (fun i ↦ i % 2 == 0) (by decide)

end Console

end Calculator
