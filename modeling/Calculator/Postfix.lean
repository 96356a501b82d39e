import Calculator.Arithmetic
import Calculator.Variables

namespace Calculator.Postfix

def step (vars : Variables) : List Int → Token → Except EvalError (List Int)
  | stack, .num n => .ok (n :: stack)
  | stack, .var name =>
    match vars.get? name with
    | some v => .ok (v :: stack)
    | none => .error (.unknownVariable name)
  | b :: a :: stack, .binary op => (op.apply a b).map (· :: stack)
  | a :: stack, .unary op => (op.applySign a).map (· :: stack)
  | _, _ => .error .malformed

def run (vars : Variables) (stack : List Int) (ts : List Token) : Except EvalError (List Int) :=
  ts.foldlM (step vars) stack

def value (vars : Variables) (ts : List Token) : Except EvalError Int := do
  match ← run vars [] ts with
  | [v] => return v
  | _ => .error .malformed

end Calculator.Postfix
