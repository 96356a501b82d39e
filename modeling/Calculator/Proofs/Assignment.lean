import Calculator.Assignment
import Calculator.Proofs.Fallible
import Mathlib.Logic.Function.Basic

namespace Calculator

theorem splitOn_eq_singleton_iff {a : Char} {cs v : List Char} :
    cs.splitOn a = [v] ↔ cs = v ∧ a ∉ cs := by
  constructor
  · intro h
    by_cases ha : a ∈ cs
    · obtain ⟨ds, es, rfl, hd⟩ := List.eq_append_cons_of_mem ha
      rw [List.splitOn_append_cons_self_of_not_mem hd] at h
      exact absurd (List.cons.inj h).2 (List.splitOn_ne_nil a es)
    · rw [List.splitOn_eq_singleton ha] at h
      exact ⟨List.singleton_inj.1 h, ha⟩
  · rintro ⟨rfl, ha⟩
    exact List.splitOn_eq_singleton ha

theorem splitOn_eq_pair_iff {a : Char} {cs v w : List Char} :
    cs.splitOn a = [v, w] ↔ cs = v ++ a :: w ∧ a ∉ v ∧ a ∉ w := by
  constructor
  · intro h
    by_cases ha : a ∈ cs
    · obtain ⟨ds, es, rfl, hd⟩ := List.eq_append_cons_of_mem ha
      rw [List.splitOn_append_cons_self_of_not_mem hd] at h
      obtain ⟨rfl, hw⟩ := List.cons.inj h
      obtain ⟨rfl, he⟩ := splitOn_eq_singleton_iff.1 hw
      exact ⟨rfl, hd, he⟩
    · rw [List.splitOn_eq_singleton ha] at h
      cases h
  · rintro ⟨rfl, hv, hw⟩
    rw [List.splitOn_append_cons_self_of_not_mem hv, List.splitOn_eq_singleton hw]

theorem isIdentifier_eq_false_of_readNat? {cs : List Char} {n : Nat} (h : readNat? cs = some n) :
    isIdentifier cs = false := by
  obtain ⟨hne, hd, _⟩ := readNat?_eq_some_iff.1 h
  obtain ⟨c, hc⟩ := List.exists_mem_of_ne_nil cs hne
  refine Bool.eq_false_iff.2 fun hi ↦ ?_
  have ha := (isIdentifier_iff.1 hi).2 c hc
  rw [isAlpha_eq_false_of_isDigit (hd c hc)] at ha
  cases ha

theorem isIdentifier_eq_false_of_readInt? {cs : List Char} {n : Int} (h : readInt? cs = some n) :
    isIdentifier cs = false := by
  unfold readInt? at h
  split at h
  · rfl
  · rfl
  · obtain ⟨m, hm, _⟩ := Option.map_eq_some_iff.1 h
    exact isIdentifier_eq_false_of_readNat? hm

/-- A text of the form `name = right`, where blanks around the two sides do not count. -/
def Sides (cs name right : List Char) : Prop :=
  ∃ v w, cs = v ++ '=' :: w ∧ '=' ∉ v ∧ '=' ∉ w ∧ Text.trim v = name ∧ Text.trim w = right

theorem exists_sides_iff {cs : List Char} :
    (∃ name right, Sides cs name right) ↔ cs.count '=' = 1 := by
  constructor
  · rintro ⟨_, _, v, w, rfl, hv, hw, _, _⟩
    rw [List.count_append, List.count_cons_self, List.count_eq_zero.2 hv, List.count_eq_zero.2 hw]
  · intro h
    have hm : '=' ∈ cs := List.count_pos_iff.1 (by omega)
    obtain ⟨v, w, rfl, hv⟩ := List.eq_append_cons_of_mem hm
    rw [List.count_append, List.count_cons_self, List.count_eq_zero.2 hv] at h
    exact ⟨_, _, v, w, rfl, hv, List.count_eq_zero.1 (by omega), rfl, rfl⟩

def Assigns (ρ : String → Option Int) (cs : List Char) (name : String) (v : Int) : Prop :=
  isIdentifier name.toList = true ∧ ∃ right, Sides cs name.toList right ∧
    (readInt? right = some v ∨ (isIdentifier right = true ∧ ρ (String.ofList right) = some v))

namespace Variables

variable {vars vars' : Variables} {cs : List Char} {v : Int}

theorem get?_insert_eq_update (vars : Variables) (name : String) (v : Int) :
    (vars.insert name v).get? = Function.update vars.get? name (some v) := by
  funext other
  rw [vars.get?_insert, Function.update_apply]

theorem rightSide_eq_ok_iff :
    vars.rightSide cs = .ok v ↔
      readInt? cs = some v ∨ (isIdentifier cs = true ∧ vars.get? (String.ofList cs) = some v) := by
  unfold rightSide
  cases hn : readInt? cs with
  | some n =>
    rw [isIdentifier_eq_false_of_readInt? hn]
    simp
  | none =>
    by_cases hi : isIdentifier cs = true
    · rw [if_pos hi, hi]
      cases vars.get? (String.ofList cs) <;> simp
    · simp [hi]

theorem assign_of_sides {line : String} {name right : List Char}
    (h : Sides line.toList name right) :
    vars.assign line =
      if isIdentifier name then (vars.rightSide right).map (vars.insert (String.ofList name))
      else .error .invalidIdentifier := by
  obtain ⟨v, w, hc, hv, hw, rfl, rfl⟩ := h
  rw [assign, splitOn_eq_pair_iff.2 ⟨hc, hv, hw⟩]

theorem assign_of_count_ne_one {line : String} (h : line.toList.count '=' ≠ 1) :
    vars.assign line = .error .malformed := by
  unfold assign
  split
  · next left right hs =>
    obtain ⟨hc, hl, hr⟩ := splitOn_eq_pair_iff.1 hs
    exact absurd (exists_sides_iff.1 ⟨_, _, left, right, hc, hl, hr, rfl, rfl⟩) h
  · rfl

theorem assign_eq_ok_iff {line : String} :
    vars.assign line = .ok vars' ↔
      ∃ name v, Assigns vars.get? line.toList name v ∧ vars' = vars.insert name v := by
  constructor
  · intro h
    by_cases hc : line.toList.count '=' = 1
    · obtain ⟨name, right, hs⟩ := exists_sides_iff.2 hc
      rw [assign_of_sides hs] at h
      split at h
      · next hi =>
        obtain ⟨v, hv, rfl⟩ := map_eq_ok_iff.1 h
        rw [← @String.toList_ofList name] at hi hs
        exact ⟨_, v, ⟨hi, right, hs, rightSide_eq_ok_iff.1 hv⟩, rfl⟩
      · cases h
    · rw [assign_of_count_ne_one hc] at h
      cases h
  · rintro ⟨name, v, ⟨hi, right, hs, hv⟩, rfl⟩
    rw [assign_of_sides hs, if_pos hi, rightSide_eq_ok_iff.2 hv, String.ofList_toList]
    rfl

end Variables

end Calculator
