import Calculator.Proofs.Token.Lexemes

namespace Calculator

def Token.after (b : Bool) (ts : List Token) : Bool := ts.foldl (fun _ t ↦ t.endsOperand) b

theorem Token.after_append (b : Bool) (ts us : List Token) :
    after b (ts ++ us) = after (after b ts) us :=
  List.foldl_append

def Op.signToken (afterOperand : Bool) (op : Op) : Token :=
  if afterOperand then .binary op else .unary op

theorem Op.endsOperand_signToken (b : Bool) (op : Op) : (op.signToken b).endsOperand = false := by
  cases b <;> rfl

namespace Lexeme

theorem tokens_cons (b : Bool) (l : Lexeme) (ls : List Lexeme) :
    tokens b (l :: ls) =
      l.token b >>= fun t ↦ tokens t.endsOperand ls >>= fun ts ↦ pure (t :: ts) := rfl

theorem tokens_cons_eq_ok_iff {b : Bool} {l : Lexeme} {ls : List Lexeme} {us : List Token} :
    tokens b (l :: ls) = .ok us ↔
      ∃ t ts, l.token b = .ok t ∧ tokens t.endsOperand ls = .ok ts ∧ t :: ts = us := by
  rw [tokens_cons]
  simp only [bind_eq_ok_iff]
  constructor
  · rintro ⟨t, ht, ts, hts, h⟩
    exact ⟨t, ts, ht, hts, Except.ok.inj h⟩
  · rintro ⟨t, ts, ht, hts, rfl⟩
    exact ⟨t, ht, ts, hts, rfl⟩

theorem tokens_cons_of_token {b : Bool} {l : Lexeme} {t : Token} (h : l.token b = .ok t)
    (ls : List Lexeme) : tokens b (l :: ls) = (tokens t.endsOperand ls).map (t :: ·) := by
  rw [tokens_cons, h]
  change (tokens t.endsOperand ls >>= _) = _
  cases tokens t.endsOperand ls <;> rfl

theorem tokens_append {b : Bool} {ls ms : List Lexeme} {ts us : List Token}
    (h : tokens b ls = .ok ts) (h' : tokens (Token.after b ts) ms = .ok us) :
    tokens b (ls ++ ms) = .ok (ts ++ us) := by
  induction ls generalizing b ts with
  | nil => cases h; exact h'
  | cons l ls ih =>
    obtain ⟨t, ts, ht, hts, rfl⟩ := tokens_cons_eq_ok_iff.1 h
    exact tokens_cons_eq_ok_iff.2 ⟨t, ts ++ us, ht, ih hts h', rfl⟩

theorem tokens_eq_append {b : Bool} {ls : List Lexeme} {ts us : List Token}
    (h : tokens b ls = .ok (ts ++ us)) :
    ∃ ms ns, ls = ms ++ ns ∧ tokens b ms = .ok ts ∧ tokens (Token.after b ts) ns = .ok us := by
  induction ts generalizing b ls with
  | nil => exact ⟨[], ls, rfl, rfl, h⟩
  | cons t ts ih =>
    cases ls with
    | nil => cases h
    | cons l ls =>
      obtain ⟨t', ts', ht, hts, he⟩ := tokens_cons_eq_ok_iff.1 h
      cases he
      obtain ⟨ms, ns, rfl, hms, hns⟩ := ih hts
      exact ⟨l :: ms, ns, rfl, tokens_cons_eq_ok_iff.2 ⟨t, ts, ht, hms, rfl⟩, hns⟩

theorem token_signs (b : Bool) (cs : List Char) :
    (signs cs).token b = .ok ((sign cs).signToken b) := by
  cases b <;> rfl

theorem sign_additive (cs : List Char) : (sign cs).Additive := by
  unfold sign
  split
  · exact .inr rfl
  · exact .inl rfl

theorem sign_cons {c : Char} (h : isSign c = true) (cs : List Char) :
    sign (c :: cs) = (sign [c]).before (sign cs) := by
  rcases isSign_iff.1 h with rfl | rfl
  · rfl
  · have hn : ('-' :: cs).count '-' = cs.count '-' + 1 := List.count_cons_self
    unfold sign
    rw [hn]
    rcases Nat.mod_two_eq_zero_or_one (cs.count '-') with hm | hm
    · rw [if_pos (by omega), hm]
      rfl
    · rw [if_neg (by omega), hm]
      rfl

theorem fuse_signToken (b : Bool) {op : Op} (h : op.Additive) (s : Op) (ts : List Token) :
    Token.fuse (op.signToken b) (.unary s :: ts) = (op.before s).signToken b :: ts := by
  cases b with
  | true => exact Token.fuse_binary h s ts
  | false => rfl

theorem tokens_signs (b : Bool) (cs : List Char) (ls : List Lexeme) :
    tokens b (signs cs :: ls) = (tokens false ls).map ((sign cs).signToken b :: ·) := by
  rw [tokens_cons_of_token (token_signs b cs), Op.endsOperand_signToken]

theorem tokens_signs_cons (b : Bool) {c d : Char} (h : isSign c = true) (ds : List Char)
    (ls : List Lexeme) :
    tokens b (signs (c :: d :: ds) :: ls) =
      (tokens false (signs (d :: ds) :: ls)).map (Token.fuse ((sign [c]).signToken b)) := by
  rw [tokens_signs, tokens_signs, sign_cons h]
  cases tokens false ls with
  | error e => rfl
  | ok ts => exact congrArg Except.ok (fuse_signToken b (sign_additive _) _ ts).symm

theorem takeSign_of_token {b : Bool} {l : Lexeme} {t : Token} (hl : ∀ cs, l ≠ signs cs)
    (h : l.token b = .ok t) (s : Op) : t.takeSign s = none := by
  unfold token at h
  split at h
  · cases h
    split
    · rfl
    · split <;> rfl
  · next cs => exact absurd rfl (hl cs)
  all_goals cases h
  all_goals rfl

theorem tokens_ne_unary {b : Bool} {ls : List Lexeme} {ts us : List Token} {s : Op}
    (hl : ∀ l ∈ ls.head?, ∀ cs, l ≠ signs cs) (h : tokens b ls = .ok ts) : ts ≠ .unary s :: us := by
  rintro rfl
  cases ls with
  | nil => cases h
  | cons l ls =>
    obtain ⟨t, ts, ht, -, he⟩ := tokens_cons_eq_ok_iff.1 h
    cases he
    cases takeSign_of_token (hl l rfl) ht .add

theorem tokens_sign_of_ne_signs (b : Bool) (c : Char) {ls : List Lexeme}
    (hl : ∀ l ∈ ls.head?, ∀ cs, l ≠ signs cs) :
    tokens b (signs [c] :: ls) =
      (tokens false ls).map (Token.fuse ((sign [c]).signToken b)) := by
  rw [tokens_signs]
  cases h : tokens false ls with
  | error e => rfl
  | ok ts =>
    have hu : ∀ s us, ts ≠ .unary s :: us := fun s us ↦ tokens_ne_unary hl h
    exact congrArg Except.ok (Token.fuse_of_ne_unary hu _).symm

theorem map_collapse_tokens_sign (b : Bool) (c : Char) (ps : List Lexeme) :
    (tokens b (signs [c] :: ps)).map Token.collapse =
      ((tokens false ps).map Token.collapse).map (Token.fuse ((sign [c]).signToken b)) := by
  rw [tokens_signs]
  cases tokens false ps <;> rfl

theorem tokens_signs_apart {cs : List Char} {ls ps : List Lexeme} (hne : cs ≠ [])
    (hs : ∀ c ∈ cs, isSign c = true) (hl : ∀ l ∈ ls.head?, ∀ cs, l ≠ signs cs)
    (hp : tokens false ls = (tokens false ps).map Token.collapse) (b : Bool) :
    tokens b (signs cs :: ls) = (tokens b ((signs cs).apart ++ ps)).map Token.collapse := by
  induction cs generalizing b with
  | nil => exact absurd rfl hne
  | cons c cs ih =>
    obtain ⟨hc, hcs⟩ := List.forall_mem_cons.1 hs
    change _ = (tokens b (signs [c] :: ((signs cs).apart ++ ps))).map Token.collapse
    rw [map_collapse_tokens_sign]
    cases cs with
    | nil =>
      rw [tokens_sign_of_ne_signs b c hl, hp]
      rfl
    | cons d ds => rw [tokens_signs_cons b hc, ih nofun hcs]

/-- The tokens of maximal lexemes are those of their pieces with the runs of signs collapsed. -/
theorem tokens_flatMap_apart {ls : List Lexeme} (h : Maximal ls) (b : Bool) :
    tokens b ls = (tokens b (ls.flatMap apart)).map Token.collapse := by
  induction ls generalizing b with
  | nil => rfl
  | cons l ls ih =>
    obtain ⟨hp, hj, ht⟩ := h
    by_cases hl : ∃ cs, l = signs cs
    · obtain ⟨cs, rfl⟩ := hl
      refine tokens_signs_apart hp.1 hp.2 ?_ (ih ht false) b
      rintro l hm ds rfl
      exact hj _ hm trivial
    · have hl' : ∀ cs, l ≠ signs cs := fun cs h ↦ hl ⟨cs, h⟩
      have ha : (l :: ls).flatMap apart = l :: ls.flatMap apart := by
        cases l with
        | signs cs => exact absurd rfl (hl' cs)
        | run | mark => rfl
      rw [ha]
      cases hk : l.token b with
      | error e => rw [tokens_cons, tokens_cons, hk]; rfl
      | ok t =>
        rw [tokens_cons_of_token hk, tokens_cons_of_token hk, ih ht]
        cases tokens t.endsOperand (ls.flatMap apart) with
        | error e => rfl
        | ok ts =>
          have hf := Token.fuse_of_takeSign (takeSign_of_token hl' hk) (Token.collapse ts)
          exact congrArg Except.ok hf.symm

theorem tokens_ofText (b : Bool) (cs : List Char) :
    tokens b (ofText cs) = (tokens b (pieces cs)).map Token.collapse :=
  tokens_flatMap_apart (maximal_ofText cs) b

end Lexeme

end Calculator
