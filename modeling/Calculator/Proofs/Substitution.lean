import Calculator.Evaluation
import Calculator.Expr
import Calculator.Proofs.Yard.Depth

namespace Calculator

variable {vars : Variables}

def compute (vars : Variables) (ts : List Token) : Except (YardError ⊕ EvalError) Int := do
  let ps ← (toPostfix vars ts).mapError .inl
  (Postfix.value vars ps).mapError .inr

theorem evaluate_eq_compute (vars : Variables) (line : String) :
    evaluate vars line =
      (tokenize line).mapError LexError.failure >>= fun ts ↦
        (compute vars ts).mapError (Sum.elim YardError.failure EvalError.failure) := by
  rw [evaluate_eq]
  refine congrArg _ (funext fun ts ↦ ?_)
  rw [compute]
  cases toPostfix vars ts with
  | error e => rfl
  | ok ps =>
    change (Postfix.value vars ps).mapError EvalError.failure =
      ((Postfix.value vars ps).mapError Sum.inr).mapError _
    cases Postfix.value vars ps <;> rfl

namespace Yard

theorem step_outer {y y' : Yard} {t : Token} {out : List Token}
    (h : y.step vars t = .ok (out, y')) (below : List (List Operator)) :
    step vars ⟨y.level, y.outer ++ below⟩ t = .ok (out, ⟨y'.level, y'.outer ++ below⟩) := by
  cases t with
  | num | unary | binary | lparen => cases h; rfl
  | var name =>
    rw [step] at h ⊢
    split at h
    · next hc => cases h; rw [if_pos hc]
    · cases h
  | word text => cases h
  | rparen =>
    rw [step] at h
    split at h
    · cases h
    · next level outer ho => cases h; rw [ho]; rfl

theorem feed_outer {y y' : Yard} {ts out : List Token} (h : y.feed vars ts = .ok (out, y'))
    (below : List (List Operator)) :
    feed vars ⟨y.level, y.outer ++ below⟩ ts = .ok (out, ⟨y'.level, y'.outer ++ below⟩) := by
  induction ts generalizing y out with
  | nil => cases h; rfl
  | cons t ts ih =>
    obtain ⟨first, mid, rest, hs, hf, rfl⟩ := feed_cons_eq_ok_iff.1 h
    exact feed_cons (step_outer hs below) (ih hf)

theorem feed_around {y y' : Yard} {pre out w ps : List Token}
    (hp : y.feed vars pre = .ok (out, y')) (hw : ∀ y : Yard, y.feed vars w = .ok (ps, y))
    (post : List Token) :
    y.feed vars (pre ++ w ++ post) =
      (y'.feed vars post).map fun q ↦ (out ++ ps ++ q.1, q.2) := by
  have h : y.feed vars (pre ++ w) = .ok (out ++ ps, y') := feed_append hp (hw y')
  rw [feed_append_eq, h]
  rfl

end Yard

/-- What stands around an operand fails whatever the operand is, or puts its own tokens around those
of the operand. -/
theorem toPostfix_around (vars : Variables) (pre post : List Token) :
    (∃ e, ∀ w ps, (∀ y : Yard, y.feed vars w = .ok (ps, y)) →
      toPostfix vars (pre ++ w ++ post) = .error e) ∨
    ∃ before behind, ∀ w ps, (∀ y : Yard, y.feed vars w = .ok (ps, y)) →
      toPostfix vars (pre ++ w ++ post) = .ok (before ++ ps ++ behind) := by
  cases hpre : Yard.empty.feed vars pre with
  | error e =>
    refine .inl ⟨e, fun w ps _ ↦ toPostfix_eq_error ?_⟩
    rw [List.append_assoc, Yard.feed_append_eq, hpre]
    rfl
  | ok r =>
    obtain ⟨out, y⟩ := r
    cases hpost : y.feed vars post with
    | error e =>
      refine .inl ⟨e, fun w ps hw ↦ toPostfix_eq_error ?_⟩
      rw [Yard.feed_around hpre hw, hpost]
      rfl
    | ok q =>
      obtain ⟨rest, y'⟩ := q
      have hf : ∀ w ps, (∀ y : Yard, y.feed vars w = .ok (ps, y)) →
          Yard.empty.feed vars (pre ++ w ++ post) = .ok (out ++ ps ++ rest, y') := by
        intro w ps hw
        rw [Yard.feed_around hpre hw, hpost]
        rfl
      cases hend : y'.finish with
      | error e =>
        refine .inl ⟨e, fun w ps hw ↦ ?_⟩
        rw [toPostfix_eq_feed]
        exact bind_eq_error_iff.2 (.inr ⟨_, hf w ps hw, bind_eq_error_iff.2 (.inl hend)⟩)
      | ok last =>
        refine .inr ⟨out, rest ++ last, fun w ps hw ↦ ?_⟩
        rw [toPostfix_eq_feed, ← List.append_assoc (out ++ ps)]
        exact bind_eq_ok_iff.2 ⟨_, hf w ps hw, bind_eq_ok_iff.2 ⟨last, hend, rfl⟩⟩

namespace Postfix

theorem step_below {stack stack' : List Int} {t : Token} (h : step vars stack t = .ok stack')
    (below : List Int) : step vars (stack ++ below) t = .ok (stack' ++ below) := by
  unfold step at h
  split at h
  · cases h; rfl
  · next name =>
    split at h
    · next v hv =>
      cases h
      rw [step, hv]
      rfl
    · cases h
  · obtain ⟨v, hv, rfl⟩ := map_eq_ok_iff.1 h
    exact map_eq_ok_iff.2 ⟨v, hv, rfl⟩
  · obtain ⟨v, hv, rfl⟩ := map_eq_ok_iff.1 h
    exact map_eq_ok_iff.2 ⟨v, hv, rfl⟩
  · cases h

theorem run_below {stack stack' : List Int} {ts : List Token} (h : run vars stack ts = .ok stack')
    (below : List Int) : run vars (stack ++ below) ts = .ok (stack' ++ below) := by
  induction ts generalizing stack with
  | nil => cases h; rfl
  | cons t ts ih =>
    obtain ⟨mid, hs, hr⟩ := bind_eq_ok_iff.1 h
    exact bind_eq_ok_iff.2 ⟨mid ++ below, step_below hs below, ih hr⟩

theorem run_of_value {ps : List Token} {v : Int} (h : value vars ps = .ok v) (stack : List Int) :
    run vars stack ps = .ok (v :: stack) := by
  obtain ⟨rest, hr, hv⟩ := bind_eq_ok_iff.1 h
  split at hv
  · cases hv
    exact run_below hr stack
  · cases hv

theorem value_congr {ps qs : List Token} (h : ∀ stack, run vars stack ps = run vars stack qs)
    (pre post : List Token) : value vars (pre ++ ps ++ post) = value vars (pre ++ qs ++ post) := by
  have hr : run vars [] (pre ++ ps ++ post) = run vars [] (pre ++ qs ++ post) := by
    simp only [run_append, h]
  rw [value, value, hr]

end Postfix

/-- Tokens that are no more than an operand: any yard lets them pass, with a row in postfix order
that puts the value on any stack. -/
def StandsFor (vars : Variables) (w : List Token) (v : Int) : Prop :=
  ∃ ps, (∀ y : Yard, y.feed vars w = .ok (ps, y)) ∧
    ∀ stack, Postfix.run vars stack ps = .ok (v :: stack)

namespace StandsFor

theorem var {x : String} {v : Int} (h : vars.get? x = some v) : StandsFor vars [.var x] v := by
  have hc : vars.contains x = true := by simp [Variables.contains, h]
  refine ⟨[.var x], ?_, ?_⟩
  · intro y
    have hs : y.step vars (.var x) = .ok ([.var x], y) := by simp [Yard.step, hc]
    exact Yard.feed_cons hs rfl
  · intro stack
    rw [Postfix.run_cons, Postfix.step, h]
    rfl

theorem parens {ts ps : List Token} {v : Int} (hp : toPostfix vars ts = .ok ps)
    (hv : Postfix.value vars ps = .ok v) :
    StandsFor vars ([Token.lparen] ++ ts ++ [Token.rparen]) v := by
  obtain ⟨out, level, hf, rfl⟩ := toPostfix_eq_ok_iff.1 hp
  refine ⟨_, ?_, Postfix.run_of_value hv⟩
  intro y
  have hl : y.feed vars [.lparen] = .ok ([], ⟨[], y.level :: y.outer⟩) := rfl
  have ht : Yard.feed vars ⟨[], y.level :: y.outer⟩ ts = .ok (out, ⟨level, y.level :: y.outer⟩) :=
    Yard.feed_outer hf (y.level :: y.outer)
  have hr : Yard.feed vars ⟨level, y.level :: y.outer⟩ [.rparen] =
      .ok (level.map Operator.token ++ [], y) := rfl
  have h := Yard.feed_append (Yard.feed_append hl ht) hr
  rw [List.append_nil] at h
  exact h

theorem compute_eq {w w' : List Token} {v : Int} (h : StandsFor vars w v)
    (h' : StandsFor vars w' v) (pre post : List Token) :
    compute vars (pre ++ w ++ post) = compute vars (pre ++ w' ++ post) := by
  obtain ⟨ps, hw, hr⟩ := h
  obtain ⟨ps', hw', hr'⟩ := h'
  have hrun : ∀ stack, Postfix.run vars stack ps = Postfix.run vars stack ps' := by
    intro stack
    rw [hr, hr']
  rcases toPostfix_around vars pre post with ⟨e, he⟩ | ⟨before, behind, hb⟩
  · rw [compute, compute, he w ps hw, he w' ps' hw']
  · have hv := Postfix.value_congr hrun before behind
    rw [compute, compute, hb w ps hw, hb w' ps' hw']
    change (Postfix.value vars _).mapError _ = (Postfix.value vars _).mapError _
    rw [hv]

theorem toPostfix_value {w : List Token} {v : Int} (h : StandsFor vars w v) :
    ∃ ps, toPostfix vars w = .ok ps ∧ Postfix.value vars ps = .ok v := by
  obtain ⟨ps, hw, hr⟩ := h
  refine ⟨ps, ?_, ?_⟩
  · have he : Yard.empty.feed vars w = .ok (ps, ⟨[], []⟩) := hw Yard.empty
    exact toPostfix_eq_ok_iff.2 ⟨ps, [], he, List.append_nil ps⟩
  · exact bind_eq_ok_iff.2 ⟨[v], hr [], rfl⟩

end StandsFor

/-- In any row of tokens, well-formed or not, an expression in parentheses is as good as a variable
with its value, and a second pair of parentheses changes nothing. -/
theorem compute_parens (vars : Variables) (ts ps : List Token) (v : Int)
    (hp : toPostfix vars ts = .ok ps) (hv : Postfix.value vars ps = .ok v) :
    (∀ x, vars.get? x = some v → ∀ pre post,
      compute vars (pre ++ [Token.lparen] ++ ts ++ [Token.rparen] ++ post) =
        compute vars (pre ++ [Token.var x] ++ post)) ∧
    (∀ pre post,
      compute vars (pre ++ [Token.lparen, .lparen] ++ ts ++ [Token.rparen, .rparen] ++ post) =
        compute vars (pre ++ [Token.lparen] ++ ts ++ [Token.rparen] ++ post)) ∧
    compute vars ([Token.lparen] ++ ts ++ [Token.rparen]) = compute vars ts := by
  have hs : StandsFor vars ([Token.lparen] ++ ts ++ [Token.rparen]) v := .parens hp hv
  obtain ⟨ps', hp', hv'⟩ := hs.toPostfix_value
  have hs' : StandsFor vars
      ([Token.lparen] ++ ([Token.lparen] ++ ts ++ [Token.rparen]) ++ [Token.rparen]) v :=
    .parens hp' hv'
  refine ⟨?_, ?_, ?_⟩
  · intro x hx pre post
    have h := hs.compute_eq (.var hx) pre post
    simpa only [List.append_assoc] using h
  · intro pre post
    have h := hs'.compute_eq hs pre post
    simpa only [List.append_assoc, List.cons_append, List.nil_append] using h
  · rw [compute, compute, hp', hp]
    change (Postfix.value vars ps').mapError _ = (Postfix.value vars ps).mapError _
    rw [hv', hv]

theorem compute_power_of_product :
    compute (Variables.ofList [("x", 6)])
        ([Token.num 2, .binary .pow] ++ [Token.lparen] ++ [Token.num 2, .binary .mul, .num 3] ++
          [Token.rparen] ++ [Token.binary .sub, .num 4]) =
      compute (Variables.ofList [("x", 6)])
        ([Token.num 2, .binary .pow] ++ [Token.var "x"] ++ [Token.binary .sub, .num 4]) :=
  (compute_parens (Variables.ofList [("x", 6)]) [.num 2, .binary .mul, .num 3]
    [.num 2, .num 3, .binary .mul] 6 rfl rfl).1 "x" rfl _ _

end Calculator
