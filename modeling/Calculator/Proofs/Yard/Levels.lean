import Calculator.Proofs.Fallible
import Calculator.Yard
import Mathlib.Data.List.TakeWhile

namespace Calculator

inductive Operator
  | unary (op : Op)
  | binary (op : Op)
  deriving DecidableEq, Repr

namespace Operator

def token : Operator → Token
  | unary op => .unary op
  | binary op => .binary op

def rank (o : Operator) : Nat := o.token.rank

def yields (op : Op) (waiting : Operator) : Bool := op.pops waiting.token

theorem isOperator_token (o : Operator) : o.token.isOperator = true := by
  cases o <;> rfl

theorem token_ne_lparen (o : Operator) : o.token ≠ .lparen := by
  cases o <;> exact Token.noConfusion

end Operator

/-- No binary operator takes an open parenthesis off the stack. -/
theorem Op.pops_lparen (op : Op) : op.pops .lparen = false := by
  cases op <;> rfl

/-- The operators that wait, the last one first: those since the last open parenthesis, and a list
for each part of the line around it. -/
structure Yard where
  level : List Operator
  outer : List (List Operator)
  deriving DecidableEq, Repr

namespace Yard

def empty : Yard := ⟨[], []⟩

def step (vars : Variables) (y : Yard) : Token → Except YardError (List Token × Yard)
  | .num n => .ok ([.num n], y)
  | .var name =>
    if vars.contains name then .ok ([.var name], y) else .error (.unknownVariable name)
  | .word text => .error (.invalidWord text)
  | .unary op => .ok ([], { y with level := .unary op :: y.level })
  | .binary op =>
    .ok ((y.level.takeWhile (Operator.yields op)).map Operator.token,
      { y with level := .binary op :: y.level.dropWhile (Operator.yields op) })
  | .lparen => .ok ([], ⟨[], y.level :: y.outer⟩)
  | .rparen =>
    match y.outer with
    | [] => .error .unbalanced
    | level :: outer => .ok (y.level.map Operator.token, ⟨level, outer⟩)

def feed (vars : Variables) (y : Yard) : List Token → Except YardError (List Token × Yard)
  | [] => .ok ([], y)
  | t :: ts => do
    let (out, y) ← y.step vars t
    let (rest, y) ← y.feed vars ts
    return (out ++ rest, y)

def finish (y : Yard) : Except YardError (List Token) :=
  match y.outer with
  | [] => .ok (y.level.map Operator.token)
  | _ :: _ => .error .unbalanced

def below (y : Yard) : List Token :=
  y.outer.flatMap fun level ↦ .lparen :: level.map Operator.token

/-- The one stack on which all levels lie. -/
def stack (y : Yard) : List Token := y.level.map Operator.token ++ y.below

variable {vars : Variables} {p : Token → Bool}

theorem takeWhile_below (y : Yard) (h : p .lparen = false) : y.below.takeWhile p = [] := by
  unfold below
  cases y.outer with
  | nil => rfl
  | cons level outer => exact List.takeWhile_cons_of_neg (by simp [h])

theorem dropWhile_below (y : Yard) (h : p .lparen = false) : y.below.dropWhile p = y.below := by
  unfold below
  cases y.outer with
  | nil => rfl
  | cons level outer => exact List.dropWhile_cons_of_neg (by simp [h])

/-- What stops at an open parenthesis reaches no further than the level. -/
theorem takeWhile_stack (y : Yard) (h : p .lparen = false) :
    y.stack.takeWhile p = (y.level.takeWhile (p ∘ Operator.token)).map Operator.token := by
  rw [stack, List.takeWhile_append, y.takeWhile_below h, List.append_nil, ← List.takeWhile_map]
  split
  · next hl => exact ((List.takeWhile_prefix p).eq_of_length hl).symm
  · rfl

theorem dropWhile_stack (y : Yard) (h : p .lparen = false) :
    y.stack.dropWhile p =
      (y.level.dropWhile (p ∘ Operator.token)).map Operator.token ++ y.below := by
  rw [stack, List.dropWhile_append, y.dropWhile_below h, ← List.dropWhile_map]
  split
  · next hl => rw [List.isEmpty_iff.1 hl, List.nil_append]
  · rfl

theorem step_stack_binary (y : Yard) (op : Op) :
    Stack.step vars y.stack (.binary op) =
      (y.step vars (.binary op)).map fun r ↦ (r.1, r.2.stack) := by
  rw [Stack.step, y.takeWhile_stack op.pops_lparen, y.dropWhile_stack op.pops_lparen]
  rfl

/-- A closing parenthesis takes the whole level, up to the parenthesis below it. -/
theorem step_stack_rparen (y : Yard) :
    Stack.step vars y.stack .rparen = (y.step vars .rparen).map fun r ↦ (r.1, r.2.stack) := by
  have hlevel : ∀ o ∈ y.level, ((fun t : Token ↦ decide (t ≠ .lparen)) ∘ Operator.token) o = true :=
    fun o _ ↦ decide_eq_true o.token_ne_lparen
  have ht := y.takeWhile_stack (p := fun t ↦ decide (t ≠ .lparen)) rfl
  have hd := y.dropWhile_stack (p := fun t ↦ decide (t ≠ .lparen)) rfl
  rw [List.takeWhile_eq_self_iff.2 hlevel] at ht
  rw [List.dropWhile_eq_nil_iff.2 hlevel, List.map_nil, List.nil_append] at hd
  rw [Stack.step, ht, hd, step, below]
  cases y.outer <;> rfl

/-- One stack does what the levels do. -/
theorem step_stack (y : Yard) (t : Token) :
    Stack.step vars y.stack t = (y.step vars t).map fun r ↦ (r.1, r.2.stack) := by
  cases t with
  | num | word | unary | lparen => rfl
  | var name =>
    rw [Stack.step, step]
    split <;> rfl
  | binary op => exact y.step_stack_binary op
  | rparen => exact y.step_stack_rparen

theorem feed_stack (y : Yard) (ts : List Token) :
    Stack.feed vars y.stack ts = (y.feed vars ts).map fun r ↦ (r.1, r.2.stack) := by
  induction ts generalizing y with
  | nil => rfl
  | cons t ts ih =>
    rw [Stack.feed, feed, step_stack]
    cases y.step vars t with
    | error e => rfl
    | ok r =>
      change (Stack.feed vars r.2.stack ts >>= _) = Except.map _ (r.2.feed vars ts >>= _)
      rw [ih]
      cases r.2.feed vars ts <;> rfl

theorem finish_stack (y : Yard) : Stack.finish y.stack = y.finish := by
  obtain ⟨level, outer⟩ := y
  rw [Stack.finish, finish, stack, below]
  cases outer with
  | nil => simp [Operator.isOperator_token]
  | cons => simp [Token.isOperator]

end Yard

theorem toPostfix_eq_feed (vars : Variables) (ts : List Token) :
    toPostfix vars ts =
      Yard.empty.feed vars ts >>= fun r ↦ r.2.finish >>= fun rest ↦ pure (r.1 ++ rest) := by
  have hf : Stack.feed vars [] ts = _ := Yard.empty.feed_stack ts
  rw [toPostfix, hf]
  cases Yard.empty.feed vars ts with
  | error e => rfl
  | ok r =>
    change (Stack.finish r.2.stack >>= _) = r.2.finish >>= _
    rw [Yard.finish_stack]

end Calculator
