import Calculator.Token
import Calculator.Variables

namespace Calculator

inductive YardError
  | unknownVariable (name : String)
  | invalidWord (text : String)
  | unbalanced
  deriving DecidableEq, Repr

def Op.rank : Op → Nat
  | .add | .sub => 1
  | .mul | .div => 2
  | .pow => 4

namespace Token

def rank : Token → Nat
  | unary _ => 3
  | binary op => op.rank
  | num _ | var _ | word _ | lparen | rparen => 0

def isOperator : Token → Bool
  | unary _ | binary _ => true
  | num _ | var _ | word _ | lparen | rparen => false

end Token

/-- Whether a binary operator takes the top off the stack: powers group to the right, the other
binary operators to the left. -/
def Op.pops (op : Op) (top : Token) : Bool :=
  match op with
  | .pow => op.rank < top.rank
  | _ => op.rank ≤ top.rank

namespace Stack

/-- Takes in one token. The answer holds the tokens that leave the stack, and the stack, whose top
comes first. -/
def step (vars : Variables) (stack : List Token) :
    Token → Except YardError (List Token × List Token)
  | .num n => .ok ([.num n], stack)
  | .var name =>
    if vars.contains name then .ok ([.var name], stack) else .error (.unknownVariable name)
  | .word text => .error (.invalidWord text)
  | .unary op => .ok ([], .unary op :: stack)
  | .binary op => .ok (stack.takeWhile op.pops, .binary op :: stack.dropWhile op.pops)
  | .lparen => .ok ([], .lparen :: stack)
  | .rparen =>
    match stack.dropWhile (· ≠ .lparen) with
    | [] => .error .unbalanced
    | _ :: below => .ok (stack.takeWhile (· ≠ .lparen), below)

def feed (vars : Variables) (stack : List Token) :
    List Token → Except YardError (List Token × List Token)
  | [] => .ok ([], stack)
  | t :: ts => do
    let (out, stack) ← step vars stack t
    let (rest, stack) ← feed vars stack ts
    return (out ++ rest, stack)

def finish (stack : List Token) : Except YardError (List Token) :=
  if stack.all Token.isOperator then .ok stack else .error .unbalanced

end Stack

/-- The tokens of a line in postfix order, each operator directly after its operands. -/
def toPostfix (vars : Variables) (ts : List Token) : Except YardError (List Token) := do
  let (out, stack) ← Stack.feed vars [] ts
  let rest ← Stack.finish stack
  return out ++ rest

end Calculator
