namespace Calculator

structure Options where
  verbose : Bool := false
  banner : Bool := true
  help : Bool := false
  line : Option String := none
  deriving DecidableEq, Repr

inductive OptionError
  | unknownFlag (arg : String)
  | unexpectedArgument (arg : String)
  deriving DecidableEq, Repr

def OptionError.message : OptionError → String
  | unknownFlag arg => "Unknown option: " ++ arg
  | unexpectedArgument arg => "Unexpected argument: " ++ arg

def usage : String :=
  String.intercalate "\n"
    ["Usage: smart-calc [OPTIONS] [LINE]",
      "",
      "Evaluates LINE once and exits, or starts an interactive session.",
      "",
      "Options:",
      "  -v, --verbose   print tokens and RPN of every expression to stderr",
      "      --no-banner do not print the greeting",
      "  -h, --help      print this message"]

namespace Options

/-- A hyphen before a digit or a blank belongs to an expression; before a hyphen or a letter it
makes a flag. -/
def isFlag (arg : String) : Bool :=
  match arg.toList with
  | '-' :: c :: _ => c == '-' || c.isAlpha
  | _ => false

def flag (o : Options) (arg : String) : Except OptionError Options :=
  if arg = "-v" ∨ arg = "--verbose" then .ok { o with verbose := true }
  else if arg = "--no-banner" then .ok { o with banner := false }
  else if arg = "-h" ∨ arg = "--help" then .ok { o with help := true }
  else .error (.unknownFlag arg)

def operand (o : Options) (arg : String) : Except OptionError Options :=
  match o.line with
  | none => .ok { o with line := some arg }
  | some _ => .error (.unexpectedArgument arg)

def read (o : Options) : List String → Except OptionError Options
  | [] => .ok o
  | arg :: args =>
    if arg = "--" then args.foldlM operand o
    else do
      let o ← if isFlag arg then o.flag arg else o.operand arg
      o.read args

def ofArguments (args : List String) : Except OptionError Options := read {} args

end Options

end Calculator
