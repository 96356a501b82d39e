import Calculator.Variables

namespace Calculator.Variables

variable {vars vars' : Variables} {name : String} {v : Int} {bs : List (String × Int)}

theorem lookup_eq_some_iff (h : bs.Pairwise fun a b ↦ a.1 ≠ b.1) :
    bs.lookup name = some v ↔ (name, v) ∈ bs := by
  induction bs with
  | nil => simp
  | cons b bs ih =>
    obtain ⟨key, value⟩ := b
    obtain ⟨hb, hbs⟩ := List.pairwise_cons.1 h
    rw [lookup_cons_eq_ite, List.mem_cons, Prod.mk.injEq]
    by_cases hn : name = key
    · have hm : (name, v) ∉ bs := fun hm ↦ hb _ hm hn.symm
      rw [if_pos hn, or_iff_left hm]
      simp [hn, eq_comm]
    · rw [if_neg hn, ih hbs]
      simp [hn]

theorem perm_of_mem_iff {cs : List (String × Int)} (hb : bs.Pairwise fun a b ↦ a.1 ≠ b.1)
    (hc : cs.Pairwise fun a b ↦ a.1 ≠ b.1) (h : ∀ b, b ∈ bs ↔ b ∈ cs) : bs.Perm cs := by
  refine (List.perm_ext_iff_of_nodup ?_ ?_).2 h
  · exact hb.imp fun hn he ↦ hn (congrArg Prod.fst he)
  · exact hc.imp fun hn he ↦ hn (congrArg Prod.fst he)

theorem distinct (vars : Variables) : vars.bindings.Pairwise fun a b ↦ a.1 ≠ b.1 :=
  vars.ascending.imp fun h ↦ String.ne_of_lt h

theorem get?_eq_some_iff : vars.get? name = some v ↔ (name, v) ∈ vars.bindings :=
  lookup_eq_some_iff vars.distinct

theorem eq_empty_of_isEmpty (h : vars.isEmpty = true) : vars = ∅ := by
  cases vars with
  | mk bindings ascending =>
    have hb : bindings = [] := by simpa [isEmpty] using h
    cases hb
    rfl

theorem bindings_inj : vars.bindings = vars'.bindings ↔ vars = vars' := by
  constructor
  · intro h
    cases vars
    cases vars'
    cases h
    rfl
  · exact congrArg bindings

theorem ext_get? (h : ∀ name, vars.get? name = vars'.get? name) : vars = vars' := by
  have hm : ∀ b, b ∈ vars.bindings ↔ b ∈ vars'.bindings := by
    intro b
    have hb : vars.get? b.1 = some b.2 ↔ b ∈ vars.bindings := get?_eq_some_iff
    rw [← hb, h, get?_eq_some_iff]
  have hp := perm_of_mem_iff vars.distinct vars'.distinct hm
  refine bindings_inj.1 (hp.eq_of_pairwise ?_ vars.ascending vars'.ascending)
  intro a b _ _ hab hba
  exact absurd (String.lt_trans hab hba) (String.lt_irrefl a.1)

/-- Of several values that a name is given one after the other, the last one stays. -/
theorem get?_foldl_insert (vars : Variables) (bs : List (String × Int)) (name : String) :
    (bs.foldl (fun vars b ↦ vars.insert b.1 b.2) vars).get? name =
      (bs.reverse.lookup name).or (vars.get? name) := by
  induction bs generalizing vars with
  | nil => rfl
  | cons b bs ih =>
    rw [List.foldl_cons, ih, get?_insert, List.reverse_cons, List.lookup_append, Option.or_assoc,
      lookup_cons_eq_ite]
    by_cases h : name = b.1
    · rw [if_pos h, if_pos h]
      rfl
    · rw [if_neg h, if_neg h]
      rfl

theorem get?_ofList (bs : List (String × Int)) (name : String) :
    (ofList bs).get? name = bs.reverse.lookup name := by
  rw [ofList, get?_foldl_insert, get?_empty, Option.or_none]

theorem contains_ofList {bs : List (String × Int)} {name : String} :
    (ofList bs).contains name = true ↔ ∃ v, (name, v) ∈ bs := by
  rw [contains, get?_ofList, List.lookup_isSome_iff]
  constructor
  · intro h
    obtain ⟨b, hb, he⟩ := h
    rw [beq_iff_eq.1 he]
    exact ⟨b.2, List.mem_reverse.1 hb⟩
  · intro h
    obtain ⟨v, hv⟩ := h
    exact ⟨(name, v), List.mem_reverse.2 hv, beq_iff_eq.2 rfl⟩

theorem exists_contains (names : List String) :
    ∃ vars : Variables, ∀ name ∈ names, vars.contains name = true := by
  refine ⟨ofList (names.map fun name ↦ (name, 0)), fun name h ↦ contains_ofList.2 ⟨0, ?_⟩⟩
  exact List.mem_map.2 ⟨name, h, rfl⟩

/-- The bindings make the same variables again, in whatever order they are made. -/
theorem ofList_eq_of_perm (h : bs.Perm vars.bindings) : ofList bs = vars := by
  have hd : bs.reverse.Pairwise fun a b ↦ a.1 ≠ b.1 := by
    refine (((List.reverse_perm bs).trans h).pairwise_iff fun h ↦ ?_).2 vars.distinct
    exact Ne.symm h
  refine ext_get? fun name ↦ Option.ext fun v ↦ ?_
  rw [get?_ofList, lookup_eq_some_iff hd, get?_eq_some_iff, List.mem_reverse, h.mem_iff]

end Calculator.Variables
