import Calculator.CommandLine.Options
import Calculator.Proofs.Fallible

namespace Calculator.Options

def argument (o : Options) (arg : String) : Except OptionError Options :=
  if isFlag arg then o.flag arg else o.operand arg

theorem read_cons {arg : String} (h : arg ≠ "--") (o : Options) (args : List String) :
    o.read (arg :: args) = o.argument arg >>= fun o ↦ o.read args := by
  rw [read, if_neg h, argument]
  split <;> rfl

def front (args : List String) : List String := args.takeWhile fun arg ↦ arg != "--"

theorem front_cons {arg : String} (h : arg ≠ "--") (args : List String) :
    front (arg :: args) = arg :: front args :=
  List.takeWhile_cons_of_pos (by simpa using h)

section

variable {verbose : Bool}

end

end Calculator.Options
