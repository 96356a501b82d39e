namespace Calculator

variable {ε ε' α β : Type}

theorem bind_eq_ok_iff {x : Except ε α} {f : α → Except ε β} {b : β} :
    (x >>= f) = .ok b ↔ ∃ a, x = .ok a ∧ f a = .ok b := by
  cases x <;> simp [bind, Except.bind]

theorem bind_eq_error_iff {x : Except ε α} {f : α → Except ε β} {e : ε} :
    (x >>= f) = .error e ↔ x = .error e ∨ ∃ a, x = .ok a ∧ f a = .error e := by
  cases x <;> simp [bind, Except.bind]

theorem map_eq_ok_iff {x : Except ε α} {f : α → β} {b : β} :
    x.map f = .ok b ↔ ∃ a, x = .ok a ∧ f a = b := by
  cases x <;> simp [Except.map]

theorem map_eq_error_iff {x : Except ε α} {f : α → β} {e : ε} :
    x.map f = .error e ↔ x = .error e := by
  cases x <;> simp [Except.map]

theorem mapError_eq_ok_iff {x : Except ε α} {f : ε → ε'} {a : α} :
    x.mapError f = .ok a ↔ x = .ok a := by
  cases x with
  | error e => exact ⟨nofun, nofun⟩
  | ok b =>
    change Except.ok b = .ok a ↔ _
    simp

/-- A fold fails at one element, with all elements in front of it worked off. -/
theorem foldlM_eq_error_iff {f : α → β → Except ε α} {a : α} {bs : List β} {e : ε} :
    bs.foldlM f a = .error e ↔
      ∃ cs b ds a', bs = cs ++ b :: ds ∧ cs.foldlM f a = .ok a' ∧ f a' b = .error e := by
  induction bs generalizing a with
  | nil => simp [pure, Except.pure]
  | cons b bs ih =>
    rw [List.foldlM_cons, bind_eq_error_iff]
    constructor
    · rintro (hb | ⟨mid, hb, hr⟩)
      · exact ⟨[], b, bs, a, rfl, rfl, hb⟩
      · obtain ⟨cs, c, ds, a', rfl, hc, he⟩ := ih.1 hr
        exact ⟨b :: cs, c, ds, a', rfl, bind_eq_ok_iff.2 ⟨mid, hb, hc⟩, he⟩
    · rintro ⟨cs, c, ds, a', hs, hr, he⟩
      cases cs with
      | nil =>
        cases hs
        cases hr
        exact .inl he
      | cons b' cs =>
        cases hs
        obtain ⟨mid, hb, hc⟩ := bind_eq_ok_iff.1 hr
        exact .inr ⟨mid, hb, ih.2 ⟨cs, c, ds, a', rfl, hc, he⟩⟩

end Calculator
