import Calculator.Text.Utf8
import Calculator.Variables

namespace Calculator.Text

def codePoints (s : String) : List Nat := s.toList.map Char.toNat

section Codes

variable {β : Type} [LT β] {f : Char → List β}

/-- The codes of two characters differ at a place that both of them have, so that what follows them
does not count. -/
structure Decides (f : Char → List β) : Prop where
  ne_nil : ∀ c, f c ≠ []
  append_lt : ∀ c d, c < d → ∀ us vs, f c ++ us < f d ++ vs

theorem Decides.flatMap_lt (hf : Decides f) {cs ds : List Char} (h : cs < ds) :
    cs.flatMap f < ds.flatMap f := by
  induction h with
  | @nil d ds =>
    obtain ⟨b, bs, hb⟩ := List.exists_cons_of_ne_nil (hf.ne_nil d)
    rw [List.flatMap_nil, List.flatMap_cons, hb]
    exact .nil
  | @rel c cs d ds hlt =>
    rw [List.flatMap_cons, List.flatMap_cons]
    exact hf.append_lt c d hlt _ _
  | @cons c cs ds _ ih =>
    rw [List.flatMap_cons, List.flatMap_cons]
    exact List.append_left_lt ih

theorem Decides.lt_iff [Std.Asymm (· < · : β → β → Prop)] (hf : Decides f) (s t : String) :
    s.toList.flatMap f < t.toList.flatMap f ↔ s < t := by
  refine ⟨fun h ↦ Decidable.byContradiction fun hst ↦ ?_, hf.flatMap_lt⟩
  by_cases he : s = t
  · subst he
    exact List.lt_irrefl _ h
  · exact List.lt_asymm h (hf.flatMap_lt (Variables.lt_of_not_lt_of_ne hst he))

end Codes

theorem codePoints_lt_iff (s t : String) : codePoints s < codePoints t ↔ s < t := by
  have hf : Decides fun c ↦ [c.toNat] :=
    ⟨fun _ ↦ List.cons_ne_nil _ _, fun _ _ h _ _ ↦ .rel h⟩
  rw [codePoints, codePoints, List.map_eq_flatMap, List.map_eq_flatMap]
  exact hf.lt_iff s t

theorem ofNat_cons_lt {m n : Nat} {us vs : List UInt8} (hn : n < 256) (hle : m ≤ n)
    (h : m = n → us < vs) : UInt8.ofNat m :: us < UInt8.ofNat n :: vs := by
  rw [List.cons_lt_cons_iff]
  rcases Nat.lt_or_eq_of_le hle with hlt | rfl
  · left
    have hm : m < 256 := Nat.lt_trans hlt hn
    rwa [UInt8.lt_iff_toNat_lt, UInt8.toNat_ofNat_of_lt' hm, UInt8.toNat_ofNat_of_lt' hn]
  · exact .inr ⟨rfl, h rfl⟩

theorem toNat_val_lt (c : Char) : c.val.toNat < 1114112 := by
  have hv : c.val.toNat < 55296 ∨ 57343 < c.val.toNat ∧ c.val.toNat < 1114112 := c.valid
  omega

theorem utf8EncodeChar_append_lt {c d : Char} (h : c < d) (us vs : List UInt8) :
    String.utf8EncodeChar c ++ us < String.utf8EncodeChar d ++ vs := by
  have hlt : c.val.toNat < d.val.toNat := h
  have hd := toNat_val_lt d
  unfold String.utf8EncodeChar
  generalize c.val.toNat = m at *
  generalize d.val.toNat = n at *
  dsimp only
  -- A longer code has the larger first byte. In two codes of one length the first bits that differ
  -- are the most significant ones, so their byte decides.
  split
  · split
    · exact ofNat_cons_lt (by omega) (by omega) (by omega)
    · split
      · exact ofNat_cons_lt (by omega) (by omega) (by omega)
      · split <;> exact ofNat_cons_lt (by omega) (by omega) (by omega)
  · rw [if_neg (by omega : ¬ n ≤ 127)]
    split
    · split
      · refine ofNat_cons_lt (by omega) (by omega) fun h₁ ↦ ?_
        exact ofNat_cons_lt (by omega) (by omega) (by omega)
      · split <;> exact ofNat_cons_lt (by omega) (by omega) (by omega)
    · rw [if_neg (by omega : ¬ n ≤ 2047)]
      split
      · split
        · refine ofNat_cons_lt (by omega) (by omega) fun h₁ ↦ ?_
          refine ofNat_cons_lt (by omega) (by omega) fun h₂ ↦ ?_
          exact ofNat_cons_lt (by omega) (by omega) (by omega)
        · exact ofNat_cons_lt (by omega) (by omega) (by omega)
      · rw [if_neg (by omega : ¬ n ≤ 65535)]
        refine ofNat_cons_lt (by omega) (by omega) fun h₁ ↦ ?_
        refine ofNat_cons_lt (by omega) (by omega) fun h₂ ↦ ?_
        refine ofNat_cons_lt (by omega) (by omega) fun h₃ ↦ ?_
        exact ofNat_cons_lt (by omega) (by omega) (by omega)

/-- The order of the bytes is the order of the code points. -/
theorem bytes_lt_iff (s t : String) : bytes s < bytes t ↔ s < t := by
  have hf : Decides String.utf8EncodeChar :=
    ⟨fun _ ↦ String.utf8EncodeChar_ne_nil, fun _ _ ↦ utf8EncodeChar_append_lt⟩
  rw [bytes_eq_flatMap, bytes_eq_flatMap]
  exact hf.lt_iff s t

end Calculator.Text
