import Calculator.Numeral

namespace Calculator

def decimal : List Char → Nat
  | [] => 0
  | c :: cs => (c.toNat - '0'.toNat) * Nat.pow 10 cs.length + decimal cs

theorem ofDigitChars_eq_decimal (cs : List Char) : Nat.ofDigitChars 10 cs 0 = decimal cs := by
  induction cs with
  | nil => rfl
  | cons c cs ih =>
    rw [Nat.ofDigitChars_cons, Nat.ofDigitChars_eq_ofDigitChars_zero, ih, decimal, Nat.mul_zero,
      Nat.zero_add, Nat.mul_comm]
    rfl

def Digits (cs : List Char) : Prop := cs ≠ [] ∧ ∀ c ∈ cs, c.isDigit = true

/-- An integer that is not negative is written in digits alone. -/
theorem digits_toString {n : Int} (h : 0 ≤ n) :
    Digits (toString n).toList ∧ (decimal (toString n).toList : Int) = n := by
  obtain ⟨k, rfl⟩ := Int.eq_ofNat_of_zero_le h
  have ht : (toString (k : Int)).toList = Nat.toDigits 10 k := Nat.toList_repr
  obtain ⟨hne, hd, hk⟩ := readNat?_eq_some_iff.1 (readNat?_toDigits k)
  rw [ht]
  refine ⟨⟨hne, hd⟩, ?_⟩
  rw [← ofDigitChars_eq_decimal, hk]

inductive Numeral : List Char → Int → Prop
  | plain {ds : List Char} : Digits ds → Numeral ds (decimal ds)
  | plus {ds : List Char} : Digits ds → Numeral ('+' :: ds) (decimal ds)
  | minus {ds : List Char} : Digits ds → Numeral ('-' :: ds) (-decimal ds)

theorem map_readNat?_eq_some_iff {cs : List Char} {f : Nat → Int} {v : Int} :
    (readNat? cs).map f = some v ↔ Digits cs ∧ f (decimal cs) = v := by
  rw [Option.map_eq_some_iff]
  constructor
  · rintro ⟨n, hn, rfl⟩
    obtain ⟨hne, hd, rfl⟩ := readNat?_eq_some_iff.1 hn
    rw [ofDigitChars_eq_decimal]
    exact ⟨⟨hne, hd⟩, rfl⟩
  · rintro ⟨⟨hne, hd⟩, rfl⟩
    exact ⟨decimal cs, readNat?_eq_some_iff.2 ⟨hne, hd, ofDigitChars_eq_decimal cs⟩, rfl⟩

theorem readInt?_eq_some_iff {cs : List Char} {v : Int} : readInt? cs = some v ↔ Numeral cs v := by
  constructor
  · intro h
    unfold readInt? at h
    split at h
    · obtain ⟨hd, rfl⟩ := map_readNat?_eq_some_iff.1 h
      exact .minus hd
    · obtain ⟨hd, rfl⟩ := map_readNat?_eq_some_iff.1 h
      exact .plus hd
    · obtain ⟨hd, rfl⟩ := map_readNat?_eq_some_iff.1 h
      exact .plain hd
  · intro h
    cases h with
    | plain hd =>
      obtain ⟨c, ds, rfl⟩ := List.exists_cons_of_ne_nil hd.1
      rw [readInt?_of_isDigit (hd.2 c List.mem_cons_self)]
      exact map_readNat?_eq_some_iff.2 ⟨hd, rfl⟩
    | plus hd | minus hd => exact map_readNat?_eq_some_iff.2 ⟨hd, rfl⟩

end Calculator
