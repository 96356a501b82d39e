import Calculator.Proofs.CommandLine.Arguments
import Calculator.Proofs.CommandLine.EndOfInput
import Calculator.Proofs.Session.Omission

namespace Calculator

open Text

namespace Text

/-- What there is to tell of an input: why it cannot be read on, unless a line ends the session
before that. -/
def Reading.troubles : Reading → List String
  | line text rest => if isExit text then [] else rest.troubles
  | interrupted rest => rest.troubles
  | endOfInput => []
  | failed message => ["Failed to read the input: " ++ message]

def troubles : Except String Reading → List String
  | .error message => ["Failed to initialize the line editor: " ++ message]
  | .ok r => r.troubles

end Text

namespace Session

section

variable (s : Session) (verbose : Bool)

end

section

variable {s : Session} (h : s.verbose = false)

include h

end

end Session

end Calculator
