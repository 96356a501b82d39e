import Calculator.Proofs.Token.Pieces
import Mathlib.Data.List.SplitBy

namespace Calculator

/-- A text with one sign in place of each longest run of signs: a minus, if the run holds an odd
number of them. -/
def contractSigns (cs : List Char) : List Char :=
  (cs.splitBy fun c d ↦ isSign c && isSign d).flatMap fun run ↦
    if run.all isSign then [if run.count '-' % 2 = 1 then '-' else '+'] else run

theorem contractSigns_cons {c : Char} (h : isSign c = false) (cs : List Char) :
    contractSigns (c :: cs) = c :: contractSigns cs := by
  have hs : (c :: cs).splitBy (fun c d ↦ isSign c && isSign d) =
      [c] :: cs.splitBy fun c d ↦ isSign c && isSign d := by
    refine List.splitBy_append (l := [c]) ?_
    simp [h]
  simp [contractSigns, hs, h]

theorem contractSigns_append {cs : List Char} (h : ∀ c ∈ cs, isSign c = false) (ds : List Char) :
    contractSigns (cs ++ ds) = cs ++ contractSigns ds := by
  induction cs with
  | nil => rfl
  | cons c cs ih =>
    obtain ⟨hc, hcs⟩ := List.forall_mem_cons.1 h
    rw [List.cons_append, contractSigns_cons hc, ih hcs, List.cons_append]

theorem contractSigns_run {cs ds : List Char} (hne : cs ≠ []) (hs : ∀ c ∈ cs, isSign c = true)
    (hd : ∀ d ∈ ds.head?, isSign d = false) :
    contractSigns (cs ++ ds) = (if cs.count '-' % 2 = 1 then '-' else '+') :: contractSigns ds := by
  have hc : cs.IsChain fun c d ↦ (isSign c && isSign d) = true := by
    refine (List.pairwise_of_forall_mem_list fun c hc d hd ↦ ?_).isChain
    rw [hs c hc, hs d hd]
    rfl
  have hall : cs.all isSign = true := List.all_eq_true.2 hs
  have hsplit : (cs ++ ds).splitBy (fun c d ↦ isSign c && isSign d) =
      cs :: ds.splitBy fun c d ↦ isSign c && isSign d := by
    rw [List.splitBy_append, List.splitBy_of_isChain hne hc, List.singleton_append]
    intro c _ d hm
    rw [hd d hm, Bool.and_false]
  rw [contractSigns, hsplit, List.flatMap_cons, if_pos hall]
  rfl

theorem contractSigns_eq_nil_iff {cs : List Char} : contractSigns cs = [] ↔ cs = [] := by
  constructor
  · intro h
    rw [← List.splitBy_eq_nil (r := fun c d ↦ isSign c && isSign d)]
    refine List.eq_nil_iff_forall_not_mem.2 fun run hr ↦ ?_
    have hrun := List.flatMap_eq_nil_iff.1 h run hr
    split at hrun
    · cases hrun
    · exact List.ne_nil_of_mem_splitBy hr hrun
  · rintro rfl
    rfl

namespace Lexeme

def shorten : Lexeme → Lexeme
  | signs cs => signs [(sign cs).symbol]
  | l => l

theorem symbol_sign (cs : List Char) :
    (sign cs).symbol = if cs.count '-' % 2 = 1 then '-' else '+' := by
  unfold sign
  split <;> rfl

theorem sign_symbol_sign (cs : List Char) : sign [(sign cs).symbol] = sign cs := by
  rcases sign_additive cs with h | h <;> rw [h] <;> rfl

theorem token_shorten (b : Bool) (l : Lexeme) : l.shorten.token b = l.token b := by
  cases l with
  | signs cs => rw [shorten, token_signs, token_signs, sign_symbol_sign]
  | run | mark => rfl

theorem tokens_map_shorten (b : Bool) (ls : List Lexeme) :
    tokens b (ls.map shorten) = tokens b ls := by
  induction ls generalizing b with
  | nil => rfl
  | cons l ls ih => simp only [List.map_cons, tokens_cons, token_shorten, ih]

theorem joins_shorten (l m : Lexeme) : l.shorten.Joins m.shorten ↔ l.Joins m := by
  cases l <;> cases m <;> exact Iff.rfl

theorem Maximal.map_shorten {ls : List Lexeme} (h : Maximal ls) : Maximal (ls.map shorten) := by
  induction ls with
  | nil => trivial
  | cons l ls ih =>
    obtain ⟨hp, hj, ht⟩ := h
    refine ⟨?_, ?_, ih ht⟩
    · cases l with
      | signs cs =>
        refine ⟨nofun, List.forall_mem_singleton.2 ?_⟩
        rcases sign_additive cs with h | h <;> rw [h] <;> rfl
      | run | mark => exact hp
    · intro m hm
      rw [List.head?_map] at hm
      obtain ⟨k, hk, rfl⟩ := Option.map_eq_some_iff.1 hm
      rw [joins_shorten]
      exact hj k hk

theorem Maximal.head?_flatMap_text {ls : List Lexeme} (h : Maximal ls)
    (hs : ∀ l ∈ ls.head?, ∀ cs, l ≠ signs cs) :
    ∀ c ∈ (ls.flatMap text).head?, isSign c = false := by
  cases ls with
  | nil => exact nofun
  | cons l ls =>
    obtain ⟨hp, _, _⟩ := h
    cases l with
    | run cs =>
      cases cs with
      | nil => exact absurd rfl hp.1
      | cons c cs =>
        intro d hd
        cases hd
        exact isSign_eq_false_of_isAlphanum (hp.2 c List.mem_cons_self)
    | signs cs => exact absurd rfl (hs _ rfl cs)
    | mark c =>
      intro d hd
      cases hd
      exact hp.2

theorem Maximal.contractSigns_flatMap_text {ls : List Lexeme} (h : Maximal ls) :
    contractSigns (ls.flatMap text) = (ls.map shorten).flatMap text := by
  induction ls with
  | nil => rfl
  | cons l ls ih =>
    obtain ⟨hp, hj, ht⟩ := h
    rw [List.flatMap_cons, List.map_cons, List.flatMap_cons, ← ih ht]
    cases l with
    | run cs =>
      exact contractSigns_append (fun c hc ↦ isSign_eq_false_of_isAlphanum (hp.2 c hc)) _
    | signs cs =>
      have hd := ht.head?_flatMap_text fun l hm ds he ↦ hj l hm (he ▸ trivial)
      rw [text, contractSigns_run hp.1 hp.2 hd, ← symbol_sign]
      rfl
    | mark c => exact contractSigns_cons hp.2 _

/-- How a sign is spelled does not matter for the tokens. -/
theorem tokens_ofText_contractSigns (b : Bool) (cs : List Char) :
    tokens b (ofText (contractSigns cs)) = tokens b (ofText cs) := by
  have hm := maximal_ofText cs
  have hs : ofText (contractSigns cs) = (ofText cs).map shorten := by
    calc ofText (contractSigns cs)
        = ofText (contractSigns ((ofText cs).flatMap text)) := by rw [flatMap_text_ofText]
      _ = ofText (((ofText cs).map shorten).flatMap text) := by
        rw [hm.contractSigns_flatMap_text]
      _ = (ofText cs).map shorten := hm.map_shorten.ofText_flatMap_text
  rw [hs, tokens_map_shorten]

end Lexeme

end Calculator
