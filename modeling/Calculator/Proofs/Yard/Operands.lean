import Calculator.Proofs.Postfix.Height
import Calculator.Proofs.Yard.Conservation

namespace Calculator

theorem Operator.isOperand_token (o : Operator) : o.token.isOperand = false := by
  cases o <;> rfl

theorem isOperand_of_mem_map {level : List Operator} {t : Token}
    (h : t ∈ level.map Operator.token) : t.isOperand = false := by
  obtain ⟨o, _, rfl⟩ := List.mem_map.1 h
  exact o.isOperand_token

theorem filter_eq_nil {ts : List Token} (h : ∀ t ∈ ts, t.isOperand = false) :
    ts.filter Token.isOperand = [] := by
  refine List.filter_eq_nil_iff.2 fun t ht ↦ ?_
  rw [h t ht]
  exact Bool.false_ne_true

section Halves

variable {first rest before behind : List Token} {t : Token}

theorem exists_of_left (h : first ++ rest = before ++ t :: behind)
    (hf : ∀ u ∈ first, u.isOperand = false) (ht : t.isOperand = true) :
    ∃ mid, before = first ++ mid ∧ rest = mid ++ t :: behind := by
  induction first generalizing before with
  | nil => exact ⟨before, rfl, h⟩
  | cons u first ih =>
    obtain ⟨hu, hf⟩ := List.forall_mem_cons.1 hf
    cases before with
    | nil =>
      cases h
      rw [hu] at ht
      cases ht
    | cons b before =>
      obtain ⟨rfl, htail⟩ := List.cons.inj h
      obtain ⟨mid, rfl, hr⟩ := ih htail hf
      exact ⟨mid, rfl, hr⟩

theorem exists_of_right (h : first ++ rest = before ++ t :: behind)
    (hr : ∀ u ∈ rest, u.isOperand = false) (ht : t.isOperand = true) :
    ∃ mid, first = before ++ t :: mid := by
  have hn : t ∉ rest := fun hm ↦ Bool.false_ne_true ((hr t hm).symm.trans ht)
  rcases List.append_eq_append_iff.1 h with ⟨mid, rfl, rfl⟩ | ⟨mid, rfl, hm⟩
  · exact absurd (List.mem_append_right mid List.mem_cons_self) hn
  · cases mid with
    | nil =>
      rw [List.nil_append] at hm
      exact absurd (hm ▸ List.mem_cons_self) hn
    | cons u mid =>
      cases hm
      exact ⟨mid, rfl⟩

end Halves

namespace Yard

variable {vars : Variables} {y y' : Yard} {ts out : List Token}

/-- An operand goes straight through, and with any other token only operators leave. -/
theorem step_operand {t : Token} (h : y.step vars t = .ok (out, y')) :
    (t.isOperand = true ∧ out = [t]) ∨
      (t.isOperand = false ∧ ∀ u ∈ out, u.isOperand = false) := by
  cases t with
  | num n =>
    cases h
    exact .inl ⟨rfl, rfl⟩
  | var name =>
    rw [step] at h
    split at h
    · cases h
      exact .inl ⟨rfl, rfl⟩
    · cases h
  | word text => cases h
  | unary op | lparen =>
    cases h
    exact .inr ⟨rfl, List.forall_mem_nil _⟩
  | binary op =>
    cases h
    exact .inr ⟨rfl, fun u ↦ isOperand_of_mem_map⟩
  | rparen =>
    rw [step] at h
    split at h
    · cases h
    · cases h
      exact .inr ⟨rfl, fun u ↦ isOperand_of_mem_map⟩

theorem feed_filter (h : y.feed vars ts = .ok (out, y')) :
    out.filter Token.isOperand = ts.filter Token.isOperand := by
  induction ts generalizing y out with
  | nil =>
    cases h
    rfl
  | cons t ts ih =>
    obtain ⟨first, mid, rest, hs, hf, rfl⟩ := feed_cons_eq_ok_iff.1 h
    rw [List.filter_append, ih hf]
    rcases step_operand hs with ⟨ht, rfl⟩ | ⟨ht, hn⟩
    · rw [List.filter_cons_of_pos ht, List.filter_cons_of_pos ht]
      rfl
    · rw [filter_eq_nil hn, List.filter_cons_of_neg (Bool.eq_false_iff.1 ht)]
      rfl

/-- What comes out in front of an operand has left before the operand goes in. -/
theorem feed_split {before behind : List Token} {t : Token}
    (h : y.feed vars ts = .ok (before ++ t :: behind, y')) (ht : t.isOperand = true) :
    ∃ us vs mid, ts = us ++ t :: vs ∧ y.feed vars us = .ok (before, mid) := by
  induction ts generalizing y before with
  | nil =>
    have he : [] = before ++ t :: behind := congrArg Prod.fst (Except.ok.inj h)
    simp at he
  | cons u ts ih =>
    obtain ⟨first, mid, rest, hs, hf, he⟩ := feed_cons_eq_ok_iff.1 h
    have hlater : ∀ later, before = first ++ later → rest = later ++ t :: behind →
        ∃ us vs mid, u :: ts = us ++ t :: vs ∧ y.feed vars us = .ok (before, mid) := by
      rintro later rfl rfl
      obtain ⟨us, vs, mid', rfl, hu⟩ := ih hf
      exact ⟨u :: us, vs, mid', rfl, feed_cons hs hu⟩
    rcases step_operand hs with ⟨_, rfl⟩ | ⟨_, hn⟩
    · cases before with
      | nil =>
        cases he
        exact ⟨[], ts, y, rfl, rfl⟩
      | cons b before =>
        obtain ⟨rfl, hr⟩ := List.cons.inj he
        exact hlater before rfl hr
    · obtain ⟨later, hb, hr⟩ := exists_of_left he hn ht
      exact hlater later hb hr

end Yard

/-- The operands go through the yard in their order and the operators as a whole. In front of an
operand there are then no more operators than before, so that an operator moves past operands to
the right only. No word gets through. -/
theorem toPostfix_operands (vars : Variables) (ts ps : List Token) (h : toPostfix vars ts = .ok ps) :
    (∀ t ∈ ps, t.isParen = false ∧ ∀ text, t ≠ .word text) ∧
    ps.filter Token.isOperand = ts.filter Token.isOperand ∧
    ps.Perm (ts.filter (!·.isParen)) ∧
    ∀ before t behind, ps = before ++ t :: behind → t.isOperand = true →
      ∃ before' behind', ts = before' ++ t :: behind' ∧
        before'.filter Token.isOperand = before.filter Token.isOperand ∧
        ∀ o : Operator, before.count o.token ≤ before'.count o.token := by
  obtain ⟨out, level, hf, hout⟩ := toPostfix_eq_ok_iff.1 h
  have hlevel : ∀ t ∈ level.map Operator.token, t.isOperand = false :=
    fun t ↦ isOperand_of_mem_map
  refine ⟨?_, ?_, toPostfix_perm h, ?_⟩
  · intro t ht
    obtain ⟨hts, hp⟩ := mem_of_toPostfix h ht
    exact ⟨hp, (admitted_of_toPostfix h hts).1⟩
  · rw [← hout, List.filter_append, filter_eq_nil hlevel, List.append_nil, Yard.feed_filter hf]
  · rintro before t behind hs ht
    rw [hs] at hout
    obtain ⟨rest, rfl⟩ := exists_of_right hout hlevel ht
    obtain ⟨us, vs, mid, hts, hu⟩ := Yard.feed_split hf ht
    refine ⟨us, vs, hts, (Yard.feed_filter hu).symm, fun o ↦ ?_⟩
    calc before.count o.token
        _ ≤ (before ++ mid.waiting).count o.token :=
          (List.sublist_append_left before mid.waiting).count_le _
        _ = (us.filter (!·.isParen)).count o.token := by
          rw [(Yard.feed_perm hu).count_eq]
          exact congrArg _ (List.append_nil _)
        _ ≤ us.count o.token := List.filter_sublist.count_le _

/-- The row `2 (x *) - ^ 3` is no expression. -/
theorem toPostfix_malformed_row :
    ∃ before behind,
      [.num 2, .lparen, .var "x", .binary .mul, .rparen, .unary .sub, .binary .pow, .num 3] =
        before ++ Token.num 3 :: behind ∧
      before.filter Token.isOperand = [.num 2, .var "x"] ∧
      ∀ o : Operator, [Token.num 2, .var "x", .binary .mul].count o.token ≤ before.count o.token :=
  (toPostfix_operands (.ofList [("x", 7)]) _ _ rfl).2.2.2 [.num 2, .var "x", .binary .mul]
    (.num 3) _ rfl rfl

end Calculator
