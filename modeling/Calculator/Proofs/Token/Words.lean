import Calculator.Proofs.Assignment
import Calculator.Proofs.Token.Denotation

namespace Calculator

open Text

variable {cs : List Char}

/-- Letters and digits hold no sign, so that a numeral among them is digits alone. -/
theorem readInt?_eq_some_iff_digits (h : ∀ c ∈ cs, c.isAlphanum = true) {v : Int} :
    readInt? cs = some v ↔ Digits cs ∧ (decimal cs : Int) = v := by
  rw [readInt?_eq_some_iff]
  constructor
  · intro hn
    cases hn with
    | plain hd => exact ⟨hd, rfl⟩
    | plus _ | minus _ => cases h _ List.mem_cons_self
  · rintro ⟨hd, rfl⟩
    exact .plain hd

namespace Lexeme

variable {b : Bool}

theorem token_run_eq_var_iff (hne : cs ≠ []) :
    (run cs).token b = .ok (.var (String.ofList cs)) ↔ isIdentifier cs = true := by
  rw [token_run_iff hne, isIdentifier_iff]
  constructor
  · intro h
    generalize ht : Token.var (String.ofList cs) = t at h
    cases h with
    | name ha => exact ⟨hne, ha⟩
    | number _ | word _ _ => cases ht
  · exact fun h ↦ .name h.2

theorem token_run_eq_num_iff (hne : cs ≠ []) (h : ∀ c ∈ cs, c.isAlphanum = true) {v : Int} :
    (run cs).token b = .ok (.num v) ↔ readInt? cs = some v := by
  rw [token_run_iff hne, readInt?_eq_some_iff_digits h]
  constructor
  · intro h
    cases h with
    | number hd => exact ⟨⟨hne, hd⟩, rfl⟩
  · rintro ⟨hd, rfl⟩
    exact .number hd.2

/-- A run is a name, a number or neither, and then a word. -/
theorem token_run_cases (b : Bool) (cs : List Char) :
    (run cs).token b = .ok (.var (String.ofList cs)) ∨
      (∃ v, (run cs).token b = .ok (.num v)) ∨
      (run cs).token b = .ok (.word (String.ofList cs)) := by
  rw [token]
  split
  · exact .inl rfl
  · split
    · exact .inr (.inl ⟨_, rfl⟩)
    · exact .inr (.inr rfl)

theorem token_run_eq_word_iff (hne : cs ≠ []) (h : ∀ c ∈ cs, c.isAlphanum = true) :
    (run cs).token b = .ok (.word (String.ofList cs)) ↔
      isIdentifier cs = false ∧ readInt? cs = none := by
  rw [← Bool.not_eq_true, ← token_run_eq_var_iff (b := b) hne, Option.eq_none_iff_forall_ne_some]
  simp only [ne_eq, ← token_run_eq_num_iff (b := b) hne h]
  rcases token_run_cases b cs with ht | ⟨v, ht⟩ | ht <;> simp [ht]

theorem ofText_run (hne : cs ≠ []) (h : ∀ c ∈ cs, c.isAlphanum = true) : ofText cs = [run cs] := by
  have hm : Maximal [run cs] := ⟨⟨hne, h⟩, nofun, trivial⟩
  have ht := hm.ofText_flatMap_text
  rwa [List.flatMap_singleton] at ht

end Lexeme

theorem tokenize_run {w : String} {t : Token} (hne : w.toList ≠ [])
    (h : ∀ c ∈ w.toList, c.isAlphanum = true)
    (ht : (Lexeme.run w.toList).token false = .ok t) : tokenize w = .ok [t] := by
  have hb : ∀ c ∈ w.toList, isBlank c = false := fun c hc ↦ isBlank_of_isAlphanum (h c hc)
  rw [tokenize, squeeze_of_isBlank hb, Lexeme.ofText_run hne h, Lexeme.tokens_cons_of_token ht]
  rfl

/-- A scanner reads a text of letters and digits as one token. It is a name or a number just when an
assignment would take the text for one, and it cannot be both; otherwise it is a word. -/
theorem Scanner.tokenize_word (s : Scanner) (w : String) (hne : w ≠ "")
    (h : ∀ c ∈ w.toList, c.isAlphanum = true) :
    ∃ t, (∀ b, (Lexeme.run w.toList).token b = .ok t) ∧ (s.tokenize w).1 = .ok [t] ∧
      (t = .var w ↔ isIdentifier w.toList = true) ∧
      (∀ v, t = .num v ↔ readInt? w.toList = some v) ∧
      (t = .word w ↔ isIdentifier w.toList = false ∧ readInt? w.toList = none) ∧
      ¬ (isIdentifier w.toList = true ∧ ∃ v, readInt? w.toList = some v) := by
  have hne : w.toList ≠ [] := fun he ↦ hne (String.toList_eq_nil_iff.1 he)
  obtain ⟨t, ht⟩ : ∃ t, ∀ b, (Lexeme.run w.toList).token b = .ok t := ⟨_, fun _ ↦ rfl⟩
  refine ⟨t, ht, ?_, ?_, fun v ↦ ?_, ?_, ?_⟩
  · rw [s.tokenize_fst]
    exact tokenize_run hne h (ht false)
  · have hv := Lexeme.token_run_eq_var_iff (b := false) hne
    rwa [ht, String.ofList_toList, Except.ok.injEq] at hv
  · have hn := Lexeme.token_run_eq_num_iff (b := false) hne h (v := v)
    rwa [ht, Except.ok.injEq] at hn
  · have hw := Lexeme.token_run_eq_word_iff (b := false) hne h
    rwa [ht, String.ofList_toList, Except.ok.injEq] at hw
  · rintro ⟨hi, v, hv⟩
    rw [isIdentifier_eq_false_of_readInt? hv] at hi
    cases hi

/-- Zeros in front do not make a number a word, a letter behind it does. -/
theorem Scanner.tokenize_word_mixed :
    ∃ t, (∀ b, (Lexeme.run ['0', '0', '7', 'a']).token b = .ok t) ∧
      (Scanner.tokenize ⟨some .rparen⟩ "007a").1 = .ok [t] ∧ t = .word "007a" := by
  obtain ⟨t, ht, hs, _, _, hw, _⟩ :=
    Scanner.tokenize_word ⟨some .rparen⟩ "007a" (by decide) (List.all_eq_true.1 rfl)
  exact ⟨t, ht, hs, hw.2 ⟨rfl, rfl⟩⟩

end Calculator
