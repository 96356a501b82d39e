namespace Calculator

inductive Op
  | add
  | sub
  | mul
  | div
  | pow
  deriving DecidableEq, Repr

def Op.symbol : Op → Char
  | .add => '+'
  | .sub => '-'
  | .mul => '*'
  | .div => '/'
  | .pow => '^'

/-- The parts of an expression. A `word` mixes letters and digits and stands for nothing; a sign is
`unary` or `binary` by its place. -/
inductive Token
  | num (n : Int)
  | var (name : String)
  | word (text : String)
  | unary (op : Op)
  | binary (op : Op)
  | lparen
  | rparen
  deriving DecidableEq, Repr

namespace Token

def text : Token → String
  | num n => toString n
  | var name => name
  | word text => text
  | unary .sub => "neg"
  | unary .add => "pos"
  | unary op => op.symbol.toString
  | binary op => op.symbol.toString
  | lparen => "("
  | rparen => ")"

def endsOperand : Token → Bool
  | num _ | var _ | word _ | rparen => true
  | unary _ | binary _ | lparen => false

end Token

def dumpTokens (ts : List Token) : String :=
  String.intercalate " " (ts.map Token.text)

end Calculator
