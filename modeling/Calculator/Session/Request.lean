import Calculator.Identifier
import Calculator.Numeral
import Calculator.Text.Blank

namespace Calculator

inductive Command
  | exit
  | help
  | vars
  | unknown
  deriving DecidableEq, Repr

def Command.ofName (name : String) : Command :=
  if name = "exit" then .exit
  else if name = "help" then .help
  else if name = "vars" then .vars
  else .unknown

inductive Request
  | blank
  | command (c : Command)
  | assignment (line : String)
  | literal (n : Int)
  | query (name : String)
  | expression (line : String)
  deriving DecidableEq, Repr

namespace Request

def ofText (cs : List Char) : Request :=
  if '=' ∈ cs then .assignment (String.ofList cs)
  else
    match readInt? cs with
    | some n => .literal n
    | none => if isIdentifier cs then .query (String.ofList cs) else .expression (String.ofList cs)

def ofLine (line : String) : Request :=
  match Text.trim line.toList with
  | [] => .blank
  | '/' :: name => .command (.ofName (String.ofList name))
  | cs => .ofText cs

theorem ofText_ne_blank (cs : List Char) : ofText cs ≠ .blank := by
  unfold ofText
  split
  · exact nofun
  · split
    · exact nofun
    · split <;> exact nofun

theorem ofText_ne_command (cs : List Char) (c : Command) : ofText cs ≠ .command c := by
  unfold ofText
  split
  · exact nofun
  · split
    · exact nofun
    · split <;> exact nofun

end Request

end Calculator
