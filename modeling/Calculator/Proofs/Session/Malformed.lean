import Calculator.Proofs.Grammar.Recovered
import Calculator.Proofs.Grammar.Shape
import Calculator.Proofs.Yard.Conservation
import Calculator.Session

namespace Calculator

variable {vars : Variables} {line : String} {ts ps : List Token} {v : Int}

theorem evaluate_eq_ok_iff :
    evaluate vars line = .ok v ↔
      ∃ ts ps, tokenize line = .ok ts ∧ toPostfix vars ts = .ok ps ∧
        Postfix.value vars ps = .ok v := by
  simp only [evaluate_eq, bind_eq_ok_iff, mapError_eq_ok_iff]
  constructor
  · rintro ⟨ts, ht, ps, hp, hv⟩
    exact ⟨ts, ps, ht, hp, hv⟩
  · rintro ⟨ts, ps, ht, hp, hv⟩
    exact ⟨ts, ht, ps, hp, hv⟩

/-- The stack machine counts operands only, so a missing operand goes unseen if another one is too
many. -/
theorem vacancies_eq_juxtapositions (hp : toPostfix vars ts = .ok ps)
    (hv : Postfix.value vars ps = .ok v) :
    Token.vacancies false ts = Token.juxtapositions false ts := by
  have hc := Postfix.countP_of_value hv
  have hperm := toPostfix_perm hp
  have ho : ps.countP Token.isOperand = ts.countP Token.isOperand := by
    rw [hperm.countP_eq, List.countP_filter]
    refine List.countP_congr fun t _ ↦ ?_
    cases t <;> simp [Token.isOperand, Token.isParen]
  have hb : ps.countP Token.isBinary = ts.countP Token.isBinary := by
    rw [hperm.countP_eq, List.countP_filter]
    refine List.countP_congr fun t _ ↦ ?_
    cases t <;> simp [Token.isBinary, Token.isParen]
  have hi := Token.operands_add_vacancies false ts
  rw [Bool.toNat_false] at hi
  omega

namespace Session

/-- A line with a value is a sentence, or else as many of its operands stand directly behind another
one as are missing elsewhere. -/
theorem evaluate_ok_shape (s : Session) (line : String) (v : Int) (h : s.evaluate line = .ok v) :
    (∃ e, Reads .characters .sum (Text.squeeze line.toList) e) ∨
      ∃ ts, tokenize line = .ok ts ∧ 0 < Token.juxtapositions false ts ∧
        Token.vacancies false ts = Token.juxtapositions false ts := by
  rw [evaluate_eq] at h
  obtain ⟨ts, ps, ht, hp, hv⟩ := evaluate_eq_ok_iff.1 h
  have hw := Lexeme.written_of_tokenize ht
  have hj := vacancies_eq_juxtapositions hp hv
  by_cases h0 : Token.juxtapositions false ts = 0
  · have hd := foldlM_deepen_of_toPostfix hp
    obtain ⟨e, he⟩ := Fits.of_shape hd (fun _ ↦ hw.additive) h0 (hj.trans h0)
    exact .inl (he.characters hw)
  · exact .inr ⟨ts, ht, Nat.pos_of_ne_zero h0, hj⟩

theorem evaluate_group_plus :
    (∃ e, Reads .characters .sum (Text.squeeze "2(3)+".toList) e) ∨
      ∃ ts, tokenize "2(3)+" = .ok ts ∧ 0 < Token.juxtapositions false ts ∧
        Token.vacancies false ts = Token.juxtapositions false ts :=
  evaluate_ok_shape {} "2(3)+" 5 rfl

/-- The group stands directly behind the `2`, and the operand behind the `+` is missing. -/
theorem not_sentence_of_evaluate_ok :
    ¬ ∀ (s : Session) (line : String) (v : Int), s.evaluate line = .ok v →
      ∃ e, Reads .characters .sum (Text.squeeze line.toList) e := by
  intro h
  obtain ⟨e, he⟩ := h {} "2(3)+" 5 rfl
  obtain ⟨ts, ht, hr⟩ := he.pieces
  have hs : Lexeme.tokens false (Lexeme.pieces (Text.squeeze "2(3)+".toList)) =
      .ok [.num 2, .lparen, .num 3, .rparen, .binary .add] := rfl
  cases hs.symm.trans ht
  cases hr.after false

end Session

end Calculator
