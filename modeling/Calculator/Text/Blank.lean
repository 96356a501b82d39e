import Calculator.Text.Letter
import Calculator.Text.Ranges

namespace Calculator.Text

/-- The code points with the Unicode property `White_Space`, as closed intervals. -/
def blankRanges : List (Nat × Nat) :=
  [(0x09, 0x0d), (0x20, 0x20), (0x85, 0x85), (0xa0, 0xa0), (0x1680, 0x1680), (0x2000, 0x200a),
    (0x2028, 0x2029), (0x202f, 0x202f), (0x205f, 0x205f), (0x3000, 0x3000)]

def isBlank (c : Char) : Bool :=
  within blankRanges c

def squeeze (cs : List Char) : List Char := cs.filter fun c ↦ !isBlank c

def trim (cs : List Char) : List Char :=
  ((cs.dropWhile isBlank).reverse.dropWhile isBlank).reverse

theorem isBlank_of_isAlphanum {c : Char} (h : c.isAlphanum = true) : isBlank c = false := by
  have hc : ((65 ≤ c.toNat ∧ c.toNat ≤ 90) ∨ (97 ≤ c.toNat ∧ c.toNat ≤ 122)) ∨
      (48 ≤ c.toNat ∧ c.toNat ≤ 57) :=
    (isAlphanum_iff.1 h).imp isAlpha_iff_toNat.1 Char.isDigit_iff_toNat.1
  simp only [isBlank, within, blankRanges, List.any_cons, List.any_nil, Bool.or_false,
    Bool.or_eq_false_iff, Bool.and_eq_false_iff, decide_eq_false_iff_not]
  omega

theorem squeeze_reverse (cs : List Char) : squeeze cs.reverse = (squeeze cs).reverse :=
  List.filter_reverse ..

theorem squeeze_append (cs ds : List Char) : squeeze (cs ++ ds) = squeeze cs ++ squeeze ds :=
  List.filter_append ..

theorem squeeze_eq_nil_iff {cs : List Char} : squeeze cs = [] ↔ ∀ c ∈ cs, isBlank c = true := by
  simp [squeeze]

theorem squeeze_dropWhile (cs : List Char) : squeeze (cs.dropWhile isBlank) = squeeze cs := by
  induction cs with
  | nil => rfl
  | cons c cs ih =>
    cases hc : isBlank c with
    | true =>
      rw [List.dropWhile_cons_of_pos hc, ih]
      simp [squeeze, hc]
    | false => rw [List.dropWhile_cons_of_neg (by simp [hc])]

theorem squeeze_trim (cs : List Char) : squeeze (trim cs) = squeeze cs := by
  rw [trim, squeeze_reverse, squeeze_dropWhile, squeeze_reverse, List.reverse_reverse,
    squeeze_dropWhile]

theorem dropWhile_isBlank_eq_self {cs : List Char} (h : ∀ c ∈ cs.head?, isBlank c = false) :
    cs.dropWhile isBlank = cs := by
  cases cs with
  | nil => rfl
  | cons c cs =>
    have hc : isBlank c = false := h c rfl
    exact List.dropWhile_cons_of_neg (by simp [hc])

/-- Blanks around a text that neither begins nor ends with one. -/
theorem trim_append (us : List Char) {cs : List Char} (ws : List Char)
    (hu : ∀ c ∈ us, isBlank c = true) (hw : ∀ c ∈ ws, isBlank c = true) (hne : cs ≠ [])
    (hf : ∀ c ∈ cs.head?, isBlank c = false) (hl : ∀ c ∈ cs.getLast?, isBlank c = false) :
    trim (us ++ (cs ++ ws)) = cs := by
  have hleft : (us ++ (cs ++ ws)).dropWhile isBlank = cs ++ ws := by
    rw [List.dropWhile_append_of_pos hu]
    refine dropWhile_isBlank_eq_self ?_
    cases cs with
    | nil => exact absurd rfl hne
    | cons c cs => exact hf
  have hright : (cs ++ ws).reverse.dropWhile isBlank = cs.reverse := by
    rw [List.reverse_append, List.dropWhile_append_of_pos fun c hc ↦ hw c (List.mem_reverse.1 hc)]
    refine dropWhile_isBlank_eq_self ?_
    rw [List.head?_reverse]
    exact hl
  rw [trim, hleft, hright, List.reverse_reverse]

theorem trim_append_of_isBlank (us : List Char) {cs : List Char} (ws : List Char)
    (hu : ∀ c ∈ us, isBlank c = true) (hw : ∀ c ∈ ws, isBlank c = true) (hne : cs ≠ [])
    (h : ∀ c ∈ cs, isBlank c = false) : trim (us ++ (cs ++ ws)) = cs := by
  refine trim_append us ws hu hw hne (fun c hc ↦ ?_) fun c hc ↦ ?_
  · exact h c (List.mem_of_mem_head? hc)
  · exact h c (List.mem_of_mem_getLast? hc)

theorem trim_of_isBlank {cs : List Char} (h : ∀ c ∈ cs, isBlank c = false) : trim cs = cs := by
  cases cs with
  | nil => rfl
  | cons c cs =>
    have ht := trim_append_of_isBlank [] [] nofun nofun (List.cons_ne_nil c cs) h
    rwa [List.nil_append, List.append_nil] at ht

theorem squeeze_of_isBlank {cs : List Char} (h : ∀ c ∈ cs, isBlank c = false) :
    squeeze cs = cs := by
  refine List.filter_eq_self.2 fun c hc ↦ ?_
  rw [h c hc]
  rfl

theorem dropWhile_isBlank_eq_nil {cs : List Char} (h : ∀ c ∈ cs, isBlank c = true) :
    cs.dropWhile isBlank = [] := by
  have hd : (cs ++ []).dropWhile isBlank = [] := List.dropWhile_append_of_pos h
  rwa [List.append_nil] at hd

theorem trim_append_blanks (cs : List Char) {ws : List Char} (hw : ∀ c ∈ ws, isBlank c = true) :
    trim (cs ++ ws) = trim cs := by
  have hr : ∀ c ∈ ws.reverse, isBlank c = true := fun c hc ↦ hw c (List.mem_reverse.1 hc)
  unfold trim
  rw [List.dropWhile_append]
  cases cs.dropWhile isBlank with
  | nil => simp [dropWhile_isBlank_eq_nil hw]
  | cons d ds => simp [List.dropWhile_append, dropWhile_isBlank_eq_nil hr]

theorem trim_blanks_append {us : List Char} (cs : List Char) (hu : ∀ c ∈ us, isBlank c = true) :
    trim (us ++ cs) = trim cs := by
  rw [trim, trim, List.dropWhile_append_of_pos hu]

theorem isBlank_of_mem_takeWhile {c : Char} {cs : List Char} (h : c ∈ cs.takeWhile isBlank) :
    isBlank c = true :=
  List.all_eq_true.1 List.all_takeWhile c h

/-- Trimming takes blanks away and nothing else. -/
theorem exists_trim (cs : List Char) :
    ∃ us ws, cs = us ++ (trim cs ++ ws) ∧ (∀ c ∈ us, isBlank c = true) ∧
      ∀ c ∈ ws, isBlank c = true := by
  have hleft : cs.takeWhile isBlank ++ cs.dropWhile isBlank = cs :=
    List.takeWhile_append_dropWhile
  have hright : (cs.dropWhile isBlank).reverse.takeWhile isBlank ++
      (cs.dropWhile isBlank).reverse.dropWhile isBlank = (cs.dropWhile isBlank).reverse :=
    List.takeWhile_append_dropWhile
  refine ⟨cs.takeWhile isBlank, ((cs.dropWhile isBlank).reverse.takeWhile isBlank).reverse, ?_,
    fun c hc ↦ isBlank_of_mem_takeWhile hc, fun c hc ↦ ?_⟩
  · rw [trim, ← List.reverse_append, hright, List.reverse_reverse, hleft]
  · exact isBlank_of_mem_takeWhile (List.mem_reverse.1 hc)

theorem isBlank_of_trim_eq_cons {c : Char} {cs ts : List Char} (h : trim cs = c :: ts) :
    isBlank c = false := by
  have hp : trim cs <+: cs.dropWhile isBlank := by
    rw [trim, ← List.reverse_suffix, List.reverse_reverse]
    exact List.dropWhile_suffix isBlank
  rw [h] at hp
  obtain ⟨rest, hr⟩ := hp
  have hd := List.head?_dropWhile_not isBlank cs
  rw [← hr] at hd
  exact hd

theorem head?_trim (cs : List Char) : (trim cs).head? = (squeeze cs).head? := by
  rw [← squeeze_trim]
  cases h : trim cs with
  | nil => rfl
  | cons c ts => simp [squeeze, isBlank_of_trim_eq_cons h]

theorem mem_squeeze {c : Char} {cs : List Char} :
    c ∈ squeeze cs ↔ c ∈ cs ∧ isBlank c = false := by
  simp [squeeze]

end Calculator.Text
