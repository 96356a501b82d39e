import Calculator.Proofs.Text.ByteOrder
import Calculator.Proofs.Variables

namespace Calculator

open Text

def LastValue (bs : List (String × Int)) (name : String) (v : Int) : Prop :=
  ∃ front back, bs = front ++ (name, v) :: back ∧ ∀ b ∈ back, b.1 ≠ name

/-- Every name that was bound, once and with its last value, in any order. -/
structure Gathers (bs es : List (String × Int)) : Prop where
  distinct : es.Pairwise fun a b ↦ a.1 ≠ b.1
  mem_iff : ∀ name v, (name, v) ∈ es ↔ LastValue bs name v

def sortByBytes (es : List (String × Int)) : List (String × Int) :=
  es.mergeSort fun a b ↦ decide (bytes a.1 ≤ bytes b.1)

variable {bs es : List (String × Int)} {name : String} {v : Int}

theorem lookup_reverse_eq_some_iff : bs.reverse.lookup name = some v ↔ LastValue bs name v := by
  rw [List.lookup_eq_some_iff]
  constructor
  · rintro ⟨back, front, hs, hb⟩
    refine ⟨front.reverse, back.reverse, ?_, fun b hm ↦ ?_⟩
    · rw [← List.reverse_reverse bs, hs]
      simp
    · exact Ne.symm (bne_iff_ne.1 (hb b (List.mem_reverse.1 hm)))
  · rintro ⟨front, back, rfl, hb⟩
    refine ⟨back.reverse, front.reverse, ?_, fun b hm ↦ ?_⟩
    · simp
    · exact bne_iff_ne.2 (Ne.symm (hb b (List.mem_reverse.1 hm)))

theorem bytes_le_iff (s t : String) : bytes s ≤ bytes t ↔ s ≤ t :=
  not_congr (bytes_lt_iff t s)

theorem sortByBytes_perm (es : List (String × Int)) : (sortByBytes es).Perm es :=
  List.mergeSort_perm es _

theorem sortByBytes_pairwise (es : List (String × Int)) :
    (sortByBytes es).Pairwise fun a b ↦ a.1 ≤ b.1 := by
  have hs : (sortByBytes es).Pairwise fun a b ↦ decide (bytes a.1 ≤ bytes b.1) = true := by
    refine List.pairwise_mergeSort (fun a b c hab hbc ↦ ?_) (fun a b ↦ ?_) es
    · simp only [decide_eq_true_eq, bytes_le_iff] at *
      exact String.le_trans hab hbc
    · simp only [Bool.or_eq_true, decide_eq_true_eq, bytes_le_iff]
      exact String.le_total a.1 b.1
  exact hs.imp fun h ↦ (bytes_le_iff _ _).1 (of_decide_eq_true h)

namespace Variables

variable {vars : Variables}

/-- The bindings come out in one order, in whatever order they go in. -/
theorem sortByBytes_of_perm (h : es.Perm vars.bindings) : sortByBytes es = vars.bindings := by
  have hp : (sortByBytes es).Perm vars.bindings := (sortByBytes_perm es).trans h
  have hle : vars.bindings.Pairwise fun a b ↦ a.1 ≤ b.1 :=
    vars.ascending.imp fun h hba ↦ String.lt_irrefl _ (String.lt_trans h hba)
  refine hp.eq_of_pairwise (fun a b ha hb hab hba ↦ ?_) (sortByBytes_pairwise es) hle
  have hn : a.1 = b.1 := String.le_antisymm hab hba
  have hva : vars.get? a.1 = some a.2 := get?_eq_some_iff.2 (hp.mem_iff.1 ha)
  have hvb : vars.get? b.1 = some b.2 := get?_eq_some_iff.2 hb
  rw [hn, hvb] at hva
  exact Prod.ext hn (Option.some.inj hva).symm

theorem get?_ofList_eq_some_iff : (ofList bs).get? name = some v ↔ LastValue bs name v := by
  rw [get?_ofList, lookup_reverse_eq_some_iff]

theorem get?_ofList_eq_none_iff : (ofList bs).get? name = none ↔ ∀ b ∈ bs, b.1 ≠ name := by
  rw [get?_ofList, List.lookup_eq_none_iff]
  simp only [List.mem_reverse, bne_iff_ne, ne_comm (a := name)]

theorem gathers_bindings (bs : List (String × Int)) : Gathers bs (ofList bs).bindings where
  distinct := distinct _
  mem_iff _ _ := get?_eq_some_iff.symm.trans get?_ofList_eq_some_iff

theorem perm_of_gathers (h : Gathers bs es) : es.Perm (ofList bs).bindings := by
  have hb := gathers_bindings bs
  refine perm_of_mem_iff h.distinct hb.distinct fun b ↦ ?_
  exact (h.mem_iff b.1 b.2).trans (hb.mem_iff b.1 b.2).symm

theorem ofList_eq_iff {cs : List (String × Int)} :
    ofList cs = ofList bs ↔ ∀ name v, LastValue cs name v ↔ LastValue bs name v := by
  simp only [← get?_ofList_eq_some_iff]
  constructor
  · intro h name v
    rw [h]
  · exact fun h ↦ ext_get? fun name ↦ Option.ext (h name)

/-- Variables that are bound one after the other are what the last bindings of the names make them,
and they have one listing, by the bytes of the names, in whatever order they are kept. -/
theorem ofList_canonical (bs : List (String × Int)) :
    (∀ name v, (ofList bs).get? name = some v ↔ LastValue bs name v) ∧
    (∀ name, (ofList bs).get? name = none ↔ ∀ b ∈ bs, b.1 ≠ name) ∧
    (∀ name, (ofList bs).contains name = true ↔ ∃ v, (ofList bs).get? name = some v) ∧
    Gathers bs (ofList bs).bindings ∧
    (ofList bs).bindings.Pairwise (fun a b ↦ bytes a.1 < bytes b.1) ∧
    (∀ s t, bytes s < bytes t ↔ codePoints s < codePoints t) ∧
    (∀ es, Gathers bs es → sortByBytes es = (ofList bs).bindings ∧
      (ofList bs).size = es.length ∧ ((ofList bs).isEmpty = true ↔ es.length = 0)) ∧
    ∀ cs, (ofList cs).bindings = (ofList bs).bindings ↔
      ∀ name v, LastValue cs name v ↔ LastValue bs name v := by
  refine ⟨fun _ _ ↦ get?_ofList_eq_some_iff, fun _ ↦ get?_ofList_eq_none_iff,
    fun _ ↦ Option.isSome_iff_exists, gathers_bindings bs, ?_, ?_, fun es h ↦ ?_, fun cs ↦ ?_⟩
  · exact (ofList bs).ascending.imp fun h ↦ (bytes_lt_iff _ _).2 h
  · exact fun s t ↦ (bytes_lt_iff s t).trans (codePoints_lt_iff s t).symm
  · have hp := perm_of_gathers h
    refine ⟨sortByBytes_of_perm hp, hp.length_eq.symm, ?_⟩
    rw [hp.length_eq]
    exact List.isEmpty_iff_length_eq_zero
  · exact bindings_inj.trans ofList_eq_iff

/-- The entries are kept in the order of their bindings, and the first binding of a name is lost. -/
theorem sortByBytes_rebound :
    sortByBytes [("b", 3), ("a", 2)] = (ofList [("b", 1), ("a", 2), ("b", 3)]).bindings ∧
      (ofList [("b", 1), ("a", 2), ("b", 3)]).size = 2 := by
  obtain ⟨-, -, -, hb, -, -, hsorted, -⟩ := ofList_canonical [("b", 1), ("a", 2), ("b", 3)]
  have hperm : [("b", (3 : Int)), ("a", 2)].Perm
      (ofList [("b", 1), ("a", 2), ("b", 3)]).bindings := .swap ("a", 2) ("b", 3) []
  have hg : Gathers [("b", 1), ("a", 2), ("b", 3)] [("b", 3), ("a", 2)] :=
    ⟨by decide, fun name v ↦ hperm.mem_iff.trans (hb.mem_iff name v)⟩
  obtain ⟨hs, hsize, -⟩ := hsorted _ hg
  exact ⟨hs, hsize⟩

example : (ofList [("😀", 1), ("\uffff", 2), ("b", 3), ("B", 4), ("b", 5)]).bindings =
    [("B", 4), ("b", 5), ("\uffff", 2), ("😀", 1)] := rfl

end Variables

end Calculator
