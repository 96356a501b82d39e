import Calculator.Proofs.Grammar.Spelled
import Calculator.Proofs.Meaning
import Calculator.Session

namespace Calculator

theorem evaluate_of_reads {vars : Variables} {line : String} {e : Expr}
    (h : Reads .characters .sum (Text.squeeze line.toList) e) :
    evaluate vars line =
      match vars.missing? e.names with
      | some name => .error (.unknownVariable name)
      | none => (e.value vars).mapError EvalError.failure := by
  obtain ⟨ts, e', ht, hr, ha⟩ := tokenize_of_reads h
  rw [evaluate_eq, ht, ha.names, ha.value]
  change ((toPostfix vars ts).mapError YardError.failure >>= _) = _
  rw [toPostfix_of_reads vars hr]
  cases vars.missing? e'.names with
  | some name => rfl
  | none =>
    change (Postfix.value vars e'.postorder).mapError EvalError.failure = _
    rw [Postfix.value_postorder]

namespace Session

/-- A sentence of the grammar has one tree. The session answers it with what the tree stands for,
or else with the first of its names that is not defined. -/
theorem evaluate_sentence (s : Session) (line : String) (e : Expr)
    (h : Reads .characters .sum (Text.squeeze line.toList) e) :
    (∀ e', Reads .characters .sum (Text.squeeze line.toList) e' → e' = e) ∧
    ((∀ name ∈ e.names, s.vars.contains name = true) →
      s.evaluate line = (e.meaning s.vars.get?).mapError EvalError.failure) ∧
    ((∃ name ∈ e.names, s.vars.contains name = false) →
      ∃ before name others, e.names = before ++ name :: others ∧
        (∀ x ∈ before, s.vars.contains x = true) ∧ s.vars.contains name = false ∧
        s.evaluate line = .error (.unknownVariable name)) := by
  have he : s.evaluate line = _ := (s.evaluate_eq line).trans (evaluate_of_reads h)
  refine ⟨fun e' h' ↦ h'.tree_unique_of_characters h, fun hv ↦ ?_, fun ⟨name, hn, hc⟩ ↦ ?_⟩
  · rw [he, Variables.missing?_eq_none.2 hv, ← Expr.value_eq_meaning]
  · cases hm : s.vars.missing? e.names with
    | none =>
      rw [Variables.missing?_eq_none.1 hm name hn] at hc
      cases hc
    | some first =>
      obtain ⟨hf, before, others, hs, hb⟩ := List.find?_eq_some_iff_append.1 hm
      refine ⟨before, first, others, hs, fun x hx ↦ ?_, ?_, ?_⟩
      · simpa using hb x hx
      · simpa using hf
      · rw [he, hm]

/-- The second minus belongs to the product: `2 - (-3 * x)`. -/
theorem evaluate_double_minus :
    Session.evaluate { vars := Variables.ofList [("x", 5)] } " 2 --3*x " = .ok 17 := by
  have ht : Reads .characters .term "-3*x".toList
      (.binary .mul (.unary .sub (.num 3)) (.var "x")) :=
    .mul (v := "-3".toList) (.inl rfl) (.factor (.sign (.inr rfl) (.power (.atom (.num rfl)))))
      (.power (.atom (.var ⟨rfl, rfl⟩)))
  have hs : Reads .characters .sum (Text.squeeze " 2 --3*x ".toList)
      (.binary .sub (.num 2) (.binary .mul (.unary .sub (.num 3)) (.var "x"))) :=
    .add (v := "2".toList) (.inr rfl) (.term (.factor (.power (.atom (.num rfl))))) ht
  exact (evaluate_sentence { vars := Variables.ofList [("x", 5)] } " 2 --3*x " _ hs).2.1 (by decide)

end Session

end Calculator
