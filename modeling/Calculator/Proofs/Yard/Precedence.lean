import Calculator.Grammar
import Calculator.Proofs.Yard.Depth

namespace Calculator

variable {vars : Variables}

/-- The least rank of an operator that can still wait at the end of a part. Nothing waits at the
end of an atom. -/
def Part.rank : Part → Nat
  | .sum => 1
  | .term => 2
  | .factor | .power => 3
  | .atom => 5

namespace Operator

theorem rank_pos (o : Operator) : 1 ≤ o.rank := by
  cases o with
  | unary => exact Nat.le_add_left 1 2
  | binary op => cases op <;> decide

theorem rank_le (o : Operator) : o.rank ≤ 4 := by
  cases o with
  | unary => exact Nat.le_succ 3
  | binary op => cases op <;> decide

theorem yields_pow (o : Operator) : yields .pow o = false :=
  decide_eq_false (Nat.not_lt.2 o.rank_le)

theorem yields_mul {op : Op} (h : op.Multiplicative) (o : Operator) :
    yields op o = decide (2 ≤ o.rank) := by
  rcases h with rfl | rfl <;> rfl

theorem yields_add {op : Op} (h : op.Additive) (o : Operator) : yields op o = true := by
  have ho := o.rank_pos
  rcases h with rfl | rfl
  · exact decide_eq_true ho
  · exact decide_eq_true ho

end Operator

namespace Yard

theorem step_unary (y : Yard) (op : Op) :
    y.step vars (.unary op) = .ok ([], { y with level := .unary op :: y.level }) := rfl

theorem step_lparen (y : Yard) : y.step vars .lparen = .ok ([], ⟨[], y.level :: y.outer⟩) := rfl

theorem step_rparen (y : Yard) (level : List Operator) :
    step vars ⟨level, y.level :: y.outer⟩ .rparen = .ok (level.map Operator.token, y) := rfl

theorem step_var {name : String} (y : Yard) (h : vars.contains name = true) :
    y.step vars (.var name) = .ok ([.var name], y) := by
  rw [step, if_pos h]

theorem step_binary {op : Op} {pending level : List Operator} (outer : List (List Operator))
    (h : ∀ o ∈ pending, Operator.yields op o = true)
    (h' : ∀ o ∈ level.head?, Operator.yields op o = false) :
    step vars ⟨pending ++ level, outer⟩ (.binary op) =
      .ok (pending.map Operator.token, ⟨.binary op :: level, outer⟩) := by
  have ht : level.takeWhile (Operator.yields op) = [] ∧
      level.dropWhile (Operator.yields op) = level := by
    cases level with
    | nil => exact ⟨rfl, rfl⟩
    | cons o os => simp [h' o rfl]
  rw [step, List.takeWhile_append_of_pos h, List.dropWhile_append_of_pos h, ht.1, ht.2,
    List.append_nil]

/-- What a part of an expression does to a yard: the tree in postfix order comes out, but for some
operators of the part that go on waiting. -/
def Absorbs (vars : Variables) (least : Nat) (y : Yard) (w : List Token) (e : Expr) : Prop :=
  ∃ out pending, (∀ o ∈ pending, least ≤ o.rank) ∧
    y.feed vars w = .ok (out, ⟨pending ++ y.level, y.outer⟩) ∧
    out ++ pending.map Operator.token = e.postorder

theorem Absorbs.mono {least least' : Nat} {y : Yard} {w : List Token} {e : Expr}
    (h : Absorbs vars least y w e) (hl : least' ≤ least) : Absorbs vars least' y w e := by
  obtain ⟨out, pending, hp, hf, he⟩ := h
  exact ⟨out, pending, fun o ho ↦ Nat.le_trans hl (hp o ho), hf, he⟩

theorem Absorbs.sign {op : Op} {least : Nat} {y : Yard} {w : List Token} {e : Expr}
    (hl : least ≤ 3) (h : Absorbs vars least { y with level := .unary op :: y.level } w e) :
    Absorbs vars least y (.unary op :: w) (.unary op e) := by
  obtain ⟨out, pending, hp, hf, he⟩ := h
  refine ⟨out, pending ++ [.unary op], ?_, ?_, ?_⟩
  · intro o ho
    rcases List.mem_append.1 ho with ho | ho
    · exact hp o ho
    · rw [List.mem_singleton.1 ho]
      exact hl
  · rw [List.append_assoc]
    exact feed_cons (step_unary y op) hf
  · rw [List.map_append, ← List.append_assoc, he]
    rfl

/-- The operands of a binary operator one after the other. The operators that wait at the end of
the first operand have to yield, and those below the whole must not. -/
theorem Absorbs.binary {op : Op} {least least' : Nat} {y : Yard} {v w : List Token} {a b : Expr}
    (hy : ∀ o : Operator, least ≤ o.rank → Operator.yields op o = true)
    (hn : ∀ o ∈ y.level.head?, Operator.yields op o = false)
    (ha : Absorbs vars least y v a)
    (hb : Absorbs vars least' { y with level := .binary op :: y.level } w b)
    (hl : least' ≤ op.rank) :
    Absorbs vars least' y (v ++ .binary op :: w) (.binary op a b) := by
  obtain ⟨out, pending, hp, hf, he⟩ := ha
  obtain ⟨out', pending', hp', hf', he'⟩ := hb
  have hs : step vars ⟨pending ++ y.level, y.outer⟩ (.binary op) =
      .ok (pending.map Operator.token, ⟨.binary op :: y.level, y.outer⟩) :=
    step_binary y.outer (fun o ho ↦ hy o (hp o ho)) hn
  refine ⟨out ++ (pending.map Operator.token ++ out'), pending' ++ [.binary op], ?_, ?_, ?_⟩
  · intro o ho
    rcases List.mem_append.1 ho with ho | ho
    · exact hp' o ho
    · rw [List.mem_singleton.1 ho]
      exact hl
  · rw [List.append_assoc]
    exact feed_append hf (feed_cons hs hf')
  · rw [Expr.postorder, ← he, ← he', List.map_append]
    simp only [List.append_assoc]
    rfl

end Yard

open Yard

/-- The yard takes in a part of an expression whatever waits below it, as long as the operators of
the part do not reach down there: below a term waits at most a sum's operator, below a sum
nothing. -/
theorem Reads.absorbs {p : Part} {w : List Token} {e : Expr} (h : Reads .tokens p w e)
    (hv : ∀ name ∈ e.names, vars.contains name = true) (y : Yard)
    (hy : p.rank ≤ 2 → ∀ o ∈ y.level.head?, o.rank < p.rank) : Absorbs vars p.rank y w e := by
  induction h generalizing y with
  | @num w n hw =>
    cases hw
    exact ⟨[.num n], [], nofun, rfl, rfl⟩
  | @var w name hw =>
    cases hw
    exact ⟨[.var name], [], nofun, feed_cons (step_var y (hv name List.mem_cons_self)) rfl, rfl⟩
  | @parens w e hw ih =>
    -- inside, the yard starts with nothing below; at the end all that waits there leaves
    obtain ⟨out, pending, _, hf, he⟩ := ih hv ⟨[], y.level :: y.outer⟩ nofun
    rw [List.append_nil] at hf
    have hr : Yard.feed vars ⟨pending, y.level :: y.outer⟩ [.rparen] =
        .ok (pending.map Operator.token ++ [], y) := feed_cons (step_rparen y pending) rfl
    have hw := feed_cons (step_lparen y) (feed_append hf hr)
    refine ⟨out ++ (pending.map Operator.token ++ []), [], nofun, hw, ?_⟩
    rw [List.map_nil, List.append_nil, List.append_nil, he]
  | atom hw ih => exact (ih hv y nofun).mono (by decide)
  | @pow v w a b ha hb iha ihb =>
    refine .binary (fun o ho ↦ ?_) (fun o _ ↦ o.yields_pow) (iha ?_ y nofun) (ihb ?_ _ nofun)
      (by decide)
    · exact absurd o.rank_le (Nat.not_le.2 ho)
    · exact fun name h ↦ hv name (List.mem_append_left _ h)
    · exact fun name h ↦ hv name (List.mem_append_right _ h)
  | power hw ih => exact ih hv y nofun
  | sign hop hw ih => exact .sign (by decide) (ih hv _ nofun)
  | factor hw ih => exact (ih hv y nofun).mono (by decide)
  | @mul op v w a b hop ha hb iha ihb =>
    have hn : ∀ o ∈ y.level.head?, o.rank < 2 := hy (by decide)
    refine .binary (fun o ho ↦ ?_) (fun o ho ↦ ?_) (iha ?_ y hy) ((ihb ?_ _ nofun).mono (by decide))
      ?_
    · rw [Operator.yields_mul hop]
      exact decide_eq_true ho
    · rw [Operator.yields_mul hop]
      exact decide_eq_false (Nat.not_le.2 (hn o ho))
    · exact fun name h ↦ hv name (List.mem_append_left _ h)
    · exact fun name h ↦ hv name (List.mem_append_right _ h)
    · rcases hop with rfl | rfl <;> decide
  | term hw ih =>
    refine (ih hv y fun _ o ho ↦ ?_).mono (by decide)
    exact Nat.lt_trans (hy (by decide) o ho) (by decide)
  | @add op v w a b hop ha hb iha ihb =>
    have hn : ∀ o ∈ y.level.head?, o.rank < 1 := hy (by decide)
    have hr : op.rank = 1 := by rcases hop with rfl | rfl <;> rfl
    refine .binary (fun o _ ↦ Operator.yields_add hop o) (fun o ho ↦ ?_) (iha ?_ y hy)
      ((ihb ?_ _ ?_).mono (by decide)) (Nat.le_of_eq hr.symm)
    · exact absurd (hn o ho) (Nat.not_lt.2 o.rank_pos)
    · exact fun name h ↦ hv name (List.mem_append_left _ h)
    · exact fun name h ↦ hv name (List.mem_append_right _ h)
    · rintro _ o ⟨⟩
      change op.rank < 2
      omega

def Variables.verdict (vars : Variables) (names : List String) (depth : Nat) :
    Except YardError Nat :=
  match vars.missing? names with
  | some name => .error (.unknownVariable name)
  | none => .ok depth

theorem Variables.verdict_append (names others : List String) (depth : Nat) :
    vars.verdict (names ++ others) depth = vars.verdict names depth >>= vars.verdict others := by
  unfold verdict
  rw [missing?_append]
  cases vars.missing? names <;> rfl

theorem Yard.foldlM_deepen_binary {op : Op} {v w : List Token} {names others : List String}
    (hv : ∀ depth, v.foldlM (deepen vars) depth = vars.verdict names depth)
    (hw : ∀ depth, w.foldlM (deepen vars) depth = vars.verdict others depth) (depth : Nat) :
    (v ++ .binary op :: w).foldlM (deepen vars) depth = vars.verdict (names ++ others) depth := by
  rw [List.foldlM_append, Variables.verdict_append, hv]
  refine congrArg _ (funext fun depth ↦ ?_)
  rw [List.foldlM_cons, ← hw]
  rfl

theorem Reads.foldlM_deepen {p : Part} {w : List Token} {e : Expr} (h : Reads .tokens p w e)
    (depth : Nat) : w.foldlM (deepen vars) depth = vars.verdict e.names depth := by
  induction h generalizing depth with
  | num hw => cases hw; rfl
  | @var w name hw =>
    cases hw
    change deepen vars depth (.var name) >>= pure = _
    rw [bind_pure, deepen, Expr.names, Variables.verdict, Variables.missing?, List.find?_singleton]
    cases vars.contains name <;> rfl
  | @parens w e hw ih =>
    change (w ++ [Token.rparen]).foldlM (deepen vars) (depth + 1) = _
    rw [List.foldlM_append, ih]
    unfold Variables.verdict
    cases vars.missing? e.names <;> rfl
  | atom hw ih | power hw ih | factor hw ih | term hw ih => exact ih depth
  | sign hop hw ih => exact ih depth
  | pow ha hb iha ihb => exact foldlM_deepen_binary iha ihb depth
  | mul hop ha hb iha ihb | add hop ha hb iha ihb => exact foldlM_deepen_binary iha ihb depth

/-- The postfix form of an expression is the postorder of its tree, and the first name that is not
defined is all that can stand against it. -/
theorem toPostfix_of_reads (vars : Variables) {w : List Token} {e : Expr}
    (h : Reads .tokens .sum w e) :
    toPostfix vars w =
      match vars.missing? e.names with
      | some name => .error (.unknownVariable name)
      | none => .ok e.postorder := by
  cases hv : vars.missing? e.names with
  | some name =>
    refine toPostfix_eq_error (feed_eq_error_iff.2 ?_)
    rw [h.foldlM_deepen, Variables.verdict, hv]
  | none =>
    obtain ⟨out, pending, _, hf, he⟩ := h.absorbs (Variables.missing?_eq_none.1 hv) Yard.empty nofun
    exact toPostfix_eq_ok_iff.2 ⟨out, pending ++ [], hf, by rw [List.append_nil, he]⟩

end Calculator
