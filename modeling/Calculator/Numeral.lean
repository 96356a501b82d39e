namespace Calculator

def readNat? (cs : List Char) : Option Nat :=
  if cs ≠ [] ∧ cs.all Char.isDigit then some (Nat.ofDigitChars 10 cs 0) else none

def readInt? : List Char → Option Int
  | '-' :: cs => (readNat? cs).map fun n ↦ -Int.ofNat n
  | '+' :: cs => (readNat? cs).map Int.ofNat
  | cs => (readNat? cs).map Int.ofNat

theorem readNat?_eq_some_iff {cs : List Char} {n : Nat} :
    readNat? cs = some n ↔
      cs ≠ [] ∧ (∀ c ∈ cs, c.isDigit = true) ∧ Nat.ofDigitChars 10 cs 0 = n := by
  unfold readNat?
  by_cases h : cs ≠ [] ∧ cs.all Char.isDigit = true
  · rw [if_pos h, List.all_eq_true] at *
    exact ⟨fun he ↦ ⟨h.1, h.2, Option.some.inj he⟩, fun he ↦ congrArg some he.2.2⟩
  · rw [if_neg h]
    rw [List.all_eq_true] at h
    exact ⟨nofun, fun he ↦ absurd ⟨he.1, he.2.1⟩ h⟩

theorem readNat?_toDigits (n : Nat) : readNat? (Nat.toDigits 10 n) = some n := by
  have h : (Nat.toDigits 10 n).all Char.isDigit = true :=
    List.all_eq_true.2 fun _ hc ↦ Nat.isDigit_of_mem_toDigits (by decide) (by decide) hc
  simp [readNat?, h, Nat.toDigits_ne_nil, Nat.ofDigitChars_ten_toDigits]

theorem readInt?_of_isDigit {c : Char} {cs : List Char} (h : c.isDigit = true) :
    readInt? (c :: cs) = (readNat? (c :: cs)).map Int.ofNat := by
  unfold readInt?
  split
  · next h₁ => cases h₁; cases h
  · next h₁ => cases h₁; cases h
  · rfl

theorem readInt?_toDigits (n : Nat) : readInt? (Nat.toDigits 10 n) = some (Int.ofNat n) := by
  cases h : Nat.toDigits 10 n with
  | nil => exact absurd h Nat.toDigits_ne_nil
  | cons c cs =>
    have hc : c.isDigit = true :=
      Nat.isDigit_of_mem_toDigits (by decide) (by decide) (h ▸ List.mem_cons_self)
    rw [readInt?_of_isDigit hc, ← h, readNat?_toDigits, Option.map_some]

theorem readInt?_toString (v : Int) : readInt? (toString v).toList = some v := by
  cases v with
  | ofNat n =>
    change readInt? n.repr.toList = _
    rw [Nat.toList_repr, readInt?_toDigits]
  | negSucc n =>
    change readInt? ("-" ++ n.succ.repr).toList = _
    rw [String.toList_append, Nat.toList_repr]
    change (readNat? (Nat.toDigits 10 n.succ)).map _ = _
    rw [readNat?_toDigits]
    rfl

theorem isDigit_or_sign_of_readInt? {cs : List Char} {v : Int} (h : readInt? cs = some v) :
    cs ≠ [] ∧ ∀ c ∈ cs, c = '-' ∨ c = '+' ∨ c.isDigit = true := by
  have hd : ∀ {ds : List Char} {f : Nat → Int}, (readNat? ds).map f = some v →
      ds ≠ [] ∧ ∀ c ∈ ds, c = '-' ∨ c = '+' ∨ c.isDigit = true := by
    intro ds f h
    obtain ⟨n, hn, _⟩ := Option.map_eq_some_iff.1 h
    obtain ⟨hne, hd, _⟩ := readNat?_eq_some_iff.1 hn
    exact ⟨hne, fun c hc ↦ .inr (.inr (hd c hc))⟩
  unfold readInt? at h
  split at h
  · exact ⟨nofun, List.forall_mem_cons.2 ⟨.inl rfl, (hd h).2⟩⟩
  · exact ⟨nofun, List.forall_mem_cons.2 ⟨.inr (.inl rfl), (hd h).2⟩⟩
  · exact hd h

end Calculator
