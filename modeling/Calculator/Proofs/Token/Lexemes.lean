import Calculator.Proofs.Fallible
import Calculator.Proofs.Grammar.SignRuns
import Calculator.Token.Lexer

namespace Calculator

namespace Lexeme

/-- A run is never empty and holds one kind of characters, and a mark is of neither kind. -/
def Proper : Lexeme → Prop
  | run cs => cs ≠ [] ∧ ∀ c ∈ cs, c.isAlphanum = true
  | signs cs => cs ≠ [] ∧ ∀ c ∈ cs, isSign c = true
  | mark c => c.isAlphanum = false ∧ isSign c = false

def Joins : Lexeme → Lexeme → Prop
  | run _, run _ | signs _, signs _ => True
  | _, _ => False

def Maximal : List Lexeme → Prop
  | [] => True
  | l :: ls => l.Proper ∧ (∀ m ∈ ls.head?, ¬ l.Joins m) ∧ Maximal ls

theorem joins_run (cs ds : List Char) (m : Lexeme) : (run cs).Joins m ↔ (run ds).Joins m := by
  cases m <;> exact Iff.rfl

theorem joins_signs (cs ds : List Char) (m : Lexeme) :
    (signs cs).Joins m ↔ (signs ds).Joins m := by
  cases m <;> exact Iff.rfl

theorem isAlphanum_eq_false_of_isSign {c : Char} (h : isSign c = true) : c.isAlphanum = false := by
  rcases isSign_iff.1 h with rfl | rfl <;> rfl

theorem isSign_eq_false_of_isAlphanum {c : Char} (h : c.isAlphanum = true) :
    isSign c = false := by
  refine Bool.eq_false_iff.2 fun hs ↦ ?_
  rw [isAlphanum_eq_false_of_isSign hs] at h
  cases h

theorem cons_of_alphanum {c : Char} (h : c.isAlphanum = true) {ls : List Lexeme}
    (hl : ∀ l ∈ ls.head?, ¬ (run [c]).Joins l) : cons c ls = run [c] :: ls := by
  unfold cons
  rw [if_pos h]
  split
  · next ds ls => exact absurd trivial (hl (run ds) rfl)
  · rfl

theorem cons_run {c : Char} (h : c.isAlphanum = true) (cs : List Char) (ls : List Lexeme) :
    cons c (run cs :: ls) = run (c :: cs) :: ls := by
  unfold cons
  rw [if_pos h]

theorem cons_of_isSign {c : Char} (h : isSign c = true) {ls : List Lexeme}
    (hl : ∀ l ∈ ls.head?, ¬ (signs [c]).Joins l) : cons c ls = signs [c] :: ls := by
  unfold cons
  rw [if_neg (by simp [isAlphanum_eq_false_of_isSign h]), if_pos h]
  split
  · next ds ls => exact absurd trivial (hl (signs ds) rfl)
  · rfl

theorem cons_signs {c : Char} (h : isSign c = true) (cs : List Char) (ls : List Lexeme) :
    cons c (signs cs :: ls) = signs (c :: cs) :: ls := by
  unfold cons
  rw [if_neg (by simp [isAlphanum_eq_false_of_isSign h]), if_pos h]

theorem cons_mark {c : Char} (h : c.isAlphanum = false) (hs : isSign c = false)
    (ls : List Lexeme) : cons c ls = mark c :: ls := by
  unfold cons
  rw [if_neg (Bool.eq_false_iff.1 h), if_neg (Bool.eq_false_iff.1 hs)]

theorem Maximal.replace_head {l l' : Lexeme} {ls : List Lexeme} (h : Maximal (l :: ls))
    (hp : l'.Proper) (hj : ∀ m, l'.Joins m ↔ l.Joins m) : Maximal (l' :: ls) := by
  obtain ⟨_, hl, ht⟩ := h
  exact ⟨hp, fun m hm h ↦ hl m hm ((hj m).1 h), ht⟩

theorem joins_head_or_not (l : Lexeme) (ls : List Lexeme) :
    (∃ m ms, ls = m :: ms ∧ l.Joins m) ∨ ∀ m ∈ ls.head?, ¬ l.Joins m := by
  cases ls with
  | nil => exact .inr nofun
  | cons m ms =>
    by_cases h : l.Joins m
    · exact .inl ⟨m, ms, rfl, h⟩
    · refine .inr fun k hk ↦ ?_
      cases hk
      exact h

theorem maximal_cons {ls : List Lexeme} (h : Maximal ls) (c : Char) : Maximal (cons c ls) := by
  cases hc : c.isAlphanum with
  | true =>
    obtain ⟨m, ms, rfl, hj⟩ | hj := joins_head_or_not (run [c]) ls
    · cases m with
      | run cs =>
        rw [cons_run hc]
        exact h.replace_head ⟨nofun, List.forall_mem_cons.2 ⟨hc, h.1.2⟩⟩ (joins_run _ _)
      | signs | mark => exact hj.elim
    · rw [cons_of_alphanum hc hj]
      exact ⟨⟨nofun, List.forall_mem_singleton.2 hc⟩, hj, h⟩
  | false =>
    cases hs : isSign c with
    | true =>
      obtain ⟨m, ms, rfl, hj⟩ | hj := joins_head_or_not (signs [c]) ls
      · cases m with
        | signs cs =>
          rw [cons_signs hs]
          exact h.replace_head ⟨nofun, List.forall_mem_cons.2 ⟨hs, h.1.2⟩⟩ (joins_signs _ _)
        | run | mark => exact hj.elim
      · rw [cons_of_isSign hs hj]
        exact ⟨⟨nofun, List.forall_mem_singleton.2 hs⟩, hj, h⟩
    | false =>
      rw [cons_mark hc hs]
      exact ⟨⟨hc, hs⟩, fun _ _ hj ↦ hj, h⟩

theorem maximal_ofText (cs : List Char) : Maximal (ofText cs) := by
  induction cs with
  | nil => trivial
  | cons c cs ih => exact maximal_cons ih c

theorem Maximal.proper {ls : List Lexeme} (h : Maximal ls) : ∀ l ∈ ls, l.Proper := by
  induction ls with
  | nil => exact nofun
  | cons l ls ih =>
    obtain ⟨hp, _, ht⟩ := h
    exact List.forall_mem_cons.2 ⟨hp, ih ht⟩

theorem foldr_cons_eq {l : List Char → Lexeme} {cs : List Char} {ls : List Lexeme} (hne : cs ≠ [])
    (hlast : ∀ c ∈ cs, cons c ls = l [c] :: ls)
    (hmore : ∀ c ∈ cs, ∀ ds, cons c (l ds :: ls) = l (c :: ds) :: ls) :
    cs.foldr cons ls = l cs :: ls := by
  induction cs with
  | nil => exact absurd rfl hne
  | cons c cs ih =>
    rw [List.foldr_cons]
    cases cs with
    | nil => exact hlast c List.mem_cons_self
    | cons d cs =>
      rw [ih nofun (fun b hb ↦ hlast b (List.mem_cons_of_mem c hb))
        fun b hb ↦ hmore b (List.mem_cons_of_mem c hb)]
      exact hmore c List.mem_cons_self (d :: cs)

/-- There is only one way to take a text apart into maximal lexemes. -/
theorem Maximal.ofText_flatMap_text {ls : List Lexeme} (h : Maximal ls) :
    ofText (ls.flatMap text) = ls := by
  induction ls with
  | nil => rfl
  | cons l ls ih =>
    obtain ⟨hp, hj, ht⟩ := h
    have hf : ofText ((l :: ls).flatMap text) = l.text.foldr cons (ofText (ls.flatMap text)) :=
      List.foldr_append
    rw [hf, ih ht]
    cases l with
    | run cs =>
      refine foldr_cons_eq hp.1 (fun c hc ↦ ?_) fun c hc ds ↦ cons_run (hp.2 c hc) ds ls
      exact cons_of_alphanum (hp.2 c hc) fun l hm h ↦ hj l hm ((joins_run _ _ l).1 h)
    | signs cs =>
      refine foldr_cons_eq hp.1 (fun c hc ↦ ?_) fun c hc ds ↦ cons_signs (hp.2 c hc) ds ls
      exact cons_of_isSign (hp.2 c hc) fun l hm h ↦ hj l hm ((joins_signs _ _ l).1 h)
    | mark c => exact cons_mark hp.1 hp.2 ls

def apart : Lexeme → List Lexeme
  | signs cs => cs.map fun c ↦ signs [c]
  | l => [l]

def pieces (cs : List Char) : List Lexeme := (ofText cs).flatMap apart

def single (c : Char) : Lexeme := if isSign c then signs [c] else mark c

theorem text_single (c : Char) : (single c).text = [c] := by
  unfold single
  split <;> rfl

theorem single_ne_run (c : Char) (cs : List Char) : single c ≠ run cs := by
  unfold single
  split <;> exact nofun

theorem pieces_cons_of_not_alphanum {c : Char} (h : c.isAlphanum = false) (cs : List Char) :
    pieces (c :: cs) = single c :: pieces cs := by
  change (cons c (ofText cs)).flatMap apart = single c :: (ofText cs).flatMap apart
  unfold cons single
  rw [if_neg (Bool.eq_false_iff.1 h)]
  split
  · split
    · next ds ls he => rw [he]; rfl
    · rfl
  · rfl

theorem pieces_cons_of_alphanum {c : Char} (h : c.isAlphanum = true) (cs : List Char) :
    pieces (c :: cs) = cons c (pieces cs) := by
  change (cons c (ofText cs)).flatMap apart = cons c ((ofText cs).flatMap apart)
  have hm := maximal_ofText cs
  unfold cons
  rw [if_pos h, if_pos h]
  cases hls : ofText cs with
  | nil => rfl
  | cons l ls =>
    cases l with
    | run | mark => rfl
    | signs ds =>
      rw [hls] at hm
      cases ds with
      | nil => exact absurd rfl hm.1.1
      | cons d ds => rfl

theorem cons_append_of_ne_run {l : Lexeme} (hl : ∀ cs, l ≠ run cs) {c : Char}
    (hc : c.isAlphanum = true) (ls ms : List Lexeme) :
    cons c (ls ++ l :: ms) = cons c ls ++ l :: ms := by
  unfold cons
  rw [if_pos hc, if_pos hc]
  cases ls with
  | nil =>
    cases l with
    | run cs => exact absurd rfl (hl cs)
    | signs | mark => rfl
  | cons k ls => cases k <;> rfl

/-- A character that is neither a letter nor a digit separates what is on its two sides. -/
theorem pieces_append {c : Char} (h : c.isAlphanum = false) (cs ds : List Char) :
    pieces (cs ++ c :: ds) = pieces cs ++ single c :: pieces ds := by
  induction cs with
  | nil => exact pieces_cons_of_not_alphanum h ds
  | cons b cs ih =>
    rw [List.cons_append]
    cases hb : b.isAlphanum with
    | true =>
      rw [pieces_cons_of_alphanum hb, pieces_cons_of_alphanum hb, ih,
        cons_append_of_ne_run (single_ne_run c) hb]
    | false =>
      rw [pieces_cons_of_not_alphanum hb, pieces_cons_of_not_alphanum hb, ih]
      rfl

theorem pieces_run {cs : List Char} (hne : cs ≠ []) (h : ∀ c ∈ cs, c.isAlphanum = true) :
    pieces cs = [run cs] := by
  induction cs with
  | nil => exact absurd rfl hne
  | cons c cs ih =>
    obtain ⟨hc, hcs⟩ := List.forall_mem_cons.1 h
    rw [pieces_cons_of_alphanum hc]
    cases cs with
    | nil => exact cons_of_alphanum hc nofun
    | cons d cs =>
      rw [ih nofun hcs]
      exact cons_run hc (d :: cs) []

end Lexeme

end Calculator
