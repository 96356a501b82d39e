import Calculator.Session
import Calculator.Text.Quoted

namespace Calculator

def Failure.label : Failure → String
  | invalidCharacter c => "InvalidCharacter(" ++ Text.quoteChar c ++ ")"
  | invalidWord text => "InvalidToken(" ++ Text.quoteWord text ++ ")"
  | invalidIdentifier => "InvalidIdentifier"
  | invalidAssignment => "InvalidAssignment"
  | unknownVariable name => "UnknownVariable(" ++ Text.quoteWord name ++ ")"
  | invalidExpression => "InvalidExpression"
  | divisionByZero => "DivisionByZero"
  | invalidExponent exponent => "ArithmeticError(" ++ toString exponent ++ ")"

namespace Session

def complaint (s : Session) (line : String) : List String :=
  match s.attempt line with
  | .ok _ => []
  | .error e =>
    report s.verbose
      ("Failed to process '" ++ String.ofList (Text.trim line.toList) ++ "': " ++ e.label)

end Session

end Calculator
