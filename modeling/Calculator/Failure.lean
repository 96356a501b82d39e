import Calculator.Arithmetic
import Calculator.Assignment
import Calculator.Token.Lexer
import Calculator.Yard

namespace Calculator

inductive Failure
  | invalidCharacter (c : Char)
  | invalidWord (text : String)
  | invalidIdentifier
  | invalidAssignment
  | unknownVariable (name : String)
  | invalidExpression
  | divisionByZero
  | invalidExponent (exponent : Int)
  deriving DecidableEq, Repr

def Failure.message : Failure → String
  | invalidCharacter c => "Invalid character: '" ++ c.toString ++ "'"
  | invalidWord text => "Invalid token: '" ++ text ++ "'"
  | invalidIdentifier => "Invalid identifier"
  | invalidAssignment => "Invalid assignment"
  | unknownVariable _ => "Unknown variable"
  | invalidExpression => "Invalid expression"
  | divisionByZero => "Division by zero"
  | invalidExponent exponent => "Invalid exponent: " ++ toString exponent

def LexError.failure : LexError → Failure
  | invalidCharacter c => .invalidCharacter c

def YardError.failure : YardError → Failure
  | unknownVariable name => .unknownVariable name
  | invalidWord text => .invalidWord text
  | unbalanced => .invalidExpression

def EvalError.failure : EvalError → Failure
  | unknownVariable name => .unknownVariable name
  | malformed => .invalidExpression
  | divisionByZero => .divisionByZero
  | exponentOutOfRange exponent => .invalidExponent exponent

def AssignmentError.failure : AssignmentError → Failure
  | malformed => .invalidAssignment
  | invalidIdentifier => .invalidIdentifier
  | unknownVariable name => .unknownVariable name

end Calculator
