import Calculator.Postfix

namespace Calculator

inductive Expr
  | num (n : Int)
  | var (name : String)
  | unary (op : Op) (a : Expr)
  | binary (op : Op) (a b : Expr)
  deriving DecidableEq, Repr

namespace Expr

def value (vars : Variables) : Expr → Except EvalError Int
  | num n => .ok n
  | var name =>
    match vars.get? name with
    | some v => .ok v
    | none => .error (.unknownVariable name)
  | unary op a => do
    let v ← a.value vars
    op.applySign v
  | binary op a b => do
    let v ← a.value vars
    let w ← b.value vars
    op.apply v w

def postorder : Expr → List Token
  | num n => [.num n]
  | var name => [.var name]
  | unary op a => a.postorder ++ [.unary op]
  | binary op a b => a.postorder ++ b.postorder ++ [.binary op]

def names : Expr → List String
  | num _ => []
  | var name => [name]
  | unary _ a => a.names
  | binary _ a b => a.names ++ b.names

end Expr

namespace Postfix

variable {vars : Variables}

theorem run_cons (stack : List Int) (t : Token) (ts : List Token) :
    run vars stack (t :: ts) = step vars stack t >>= fun stack ↦ run vars stack ts := rfl

theorem run_append (stack : List Int) (ts us : List Token) :
    run vars stack (ts ++ us) = run vars stack ts >>= fun stack ↦ run vars stack us := by
  unfold run
  rw [List.foldlM_append]

/-- A tree in postfix order puts its value on the stack and leaves the operands below alone. -/
theorem run_postorder (e : Expr) (stack : List Int) :
    run vars stack e.postorder = (e.value vars).map (· :: stack) := by
  induction e generalizing stack with
  | num n => rfl
  | var name =>
    rw [Expr.postorder, Expr.value, run_cons, step]
    cases vars.get? name <;> rfl
  | unary op a ih =>
    rw [Expr.postorder, Expr.value, run_append, ih]
    cases a.value vars with
    | error e => rfl
    | ok v =>
      change (step vars (v :: stack) (.unary op) >>= fun stack ↦ run vars stack []) = _
      change ((op.applySign v).map (· :: stack) >>= pure) = (op.applySign v).map (· :: stack)
      rw [bind_pure]
  | binary op a b iha ihb =>
    rw [Expr.postorder, Expr.value, run_append, run_append, iha]
    cases a.value vars with
    | error e => rfl
    | ok v =>
      change ((run vars (v :: stack) b.postorder) >>= fun stack ↦
        run vars stack [.binary op]) = ((b.value vars) >>= fun w ↦ op.apply v w).map (· :: stack)
      rw [ihb]
      cases b.value vars with
      | error e => rfl
      | ok w =>
        change ((op.apply v w).map (· :: stack) >>= pure) = (op.apply v w).map (· :: stack)
        rw [bind_pure]

theorem value_postorder (vars : Variables) (e : Expr) : value vars e.postorder = e.value vars := by
  rw [value, run_postorder]
  cases e.value vars <;> rfl

end Postfix

end Calculator
