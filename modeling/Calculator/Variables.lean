namespace Calculator

/-- The variables of a session with their values, listed by name in the order of code points. -/
structure Variables where
  bindings : List (String × Int)
  ascending : bindings.Pairwise fun a b ↦ a.1 < b.1
  deriving DecidableEq

namespace Variables

instance : EmptyCollection Variables := ⟨⟨[], .nil⟩⟩

def bind (name : String) (value : Int) : List (String × Int) → List (String × Int)
  | [] => [(name, value)]
  | b :: bs =>
    if name < b.1 then (name, value) :: b :: bs
    else if name = b.1 then (name, value) :: bs
    else b :: bind name value bs

theorem mem_bind {name : String} {value : Int} {a : String × Int} {bs : List (String × Int)}
    (h : a ∈ bind name value bs) : a = (name, value) ∨ a ∈ bs := by
  induction bs with
  | nil => simpa [bind] using h
  | cons b bs ih =>
    rw [bind] at h
    split at h
    · simpa using h
    · split at h
      · rcases List.mem_cons.1 h with h | h
        · exact .inl h
        · exact .inr (List.mem_cons_of_mem _ h)
      · rcases List.mem_cons.1 h with h | h
        · exact .inr (h ▸ List.mem_cons_self)
        · exact (ih h).imp_right (List.mem_cons_of_mem _)

theorem lt_of_not_lt_of_ne {s t : String} (h : ¬ s < t) (hne : s ≠ t) : t < s := by
  rcases Decidable.em (t < s) with ht | ht
  · exact ht
  · exact absurd (String.le_antisymm ht h) hne

theorem pairwise_bind (name : String) (value : Int) {bs : List (String × Int)}
    (h : bs.Pairwise fun a b ↦ a.1 < b.1) :
    (bind name value bs).Pairwise fun a b ↦ a.1 < b.1 := by
  induction bs with
  | nil => simp [bind]
  | cons b bs ih =>
    obtain ⟨hb, hbs⟩ := List.pairwise_cons.1 h
    rw [bind]
    split
    · next hlt =>
      refine List.pairwise_cons.2 ⟨fun a ha ↦ ?_, h⟩
      rcases List.mem_cons.1 ha with rfl | ha
      · exact hlt
      · exact String.lt_trans hlt (hb a ha)
    · next hlt =>
      split
      · next heq => exact List.pairwise_cons.2 ⟨fun a ha ↦ heq ▸ hb a ha, hbs⟩
      · next hne =>
        refine List.pairwise_cons.2 ⟨fun a ha ↦ ?_, ih hbs⟩
        rcases mem_bind ha with rfl | ha
        · exact lt_of_not_lt_of_ne hlt hne
        · exact hb a ha

def insert (vars : Variables) (name : String) (value : Int) : Variables :=
  ⟨bind name value vars.bindings, pairwise_bind name value vars.ascending⟩

def get? (vars : Variables) (name : String) : Option Int := vars.bindings.lookup name

def contains (vars : Variables) (name : String) : Bool := (vars.get? name).isSome

def size (vars : Variables) : Nat := vars.bindings.length

def isEmpty (vars : Variables) : Bool := vars.bindings.isEmpty

def ofList (bs : List (String × Int)) : Variables :=
  bs.foldl (fun vars b ↦ vars.insert b.1 b.2) ∅

theorem get?_empty (name : String) : (∅ : Variables).get? name = none := rfl

theorem lookup_cons_eq_ite (name : String) (b : String × Int) (bs : List (String × Int)) :
    (b :: bs).lookup name = if name = b.1 then some b.2 else bs.lookup name := by
  obtain ⟨key, value⟩ := b
  by_cases h : name = key
  · simp [h]
  · rw [List.lookup_cons, if_neg h, beq_false_of_ne h]

theorem lookup_bind (name other : String) (value : Int) (bs : List (String × Int)) :
    (bind name value bs).lookup other = if other = name then some value else bs.lookup other := by
  induction bs with
  | nil => rw [bind, lookup_cons_eq_ite]
  | cons b bs ih =>
    rw [bind]
    split
    · rw [lookup_cons_eq_ite]
    · split
      · next heq =>
        rw [lookup_cons_eq_ite, lookup_cons_eq_ite, heq]
        split <;> rfl
      · next hne =>
        rw [lookup_cons_eq_ite, lookup_cons_eq_ite, ih]
        by_cases h : other = b.1
        · rw [if_pos h, if_neg (h ▸ Ne.symm hne), if_pos h]
        · rw [if_neg h, if_neg h]

theorem get?_insert (vars : Variables) (name other : String) (value : Int) :
    (vars.insert name value).get? other = if other = name then some value else vars.get? other :=
  lookup_bind name other value vars.bindings

theorem contains_insert (vars : Variables) (name other : String) (value : Int) :
    (vars.insert name value).contains other = (decide (other = name) || vars.contains other) := by
  unfold contains
  rw [get?_insert]
  by_cases h : other = name
  · simp [h]
  · simp [h]

theorem length_bind_le (name : String) (value : Int) (bs : List (String × Int)) :
    (bind name value bs).length ≤ bs.length + 1 := by
  induction bs with
  | nil => simp [bind]
  | cons b bs ih =>
    rw [bind]
    split
    · simp
    · split
      · simp
      · simpa using ih

theorem size_insert_le (vars : Variables) (name : String) (value : Int) :
    (vars.insert name value).size ≤ vars.size + 1 :=
  length_bind_le name value vars.bindings

end Variables

end Calculator
