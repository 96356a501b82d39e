import Calculator.Identifier
import Calculator.Numeral
import Calculator.Text.Blank
import Calculator.Variables

namespace Calculator

inductive AssignmentError
  | malformed
  | invalidIdentifier
  | unknownVariable (name : String)
  deriving DecidableEq, Repr

namespace Variables

def rightSide (vars : Variables) (cs : List Char) : Except AssignmentError Int :=
  match readInt? cs with
  | some n => .ok n
  | none =>
    if isIdentifier cs then
      match vars.get? (String.ofList cs) with
      | some v => .ok v
      | none => .error (.unknownVariable (String.ofList cs))
    else .error .malformed

def assign (vars : Variables) (line : String) : Except AssignmentError Variables :=
  match line.toList.splitOn '=' with
  | [left, right] =>
    let name := Text.trim left
    if isIdentifier name then
      (vars.rightSide (Text.trim right)).map (vars.insert (String.ofList name))
    else .error .invalidIdentifier
  | _ => .error .malformed

end Variables

end Calculator
