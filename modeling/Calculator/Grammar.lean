import Calculator.Expr
import Calculator.Identifier
import Calculator.Numeral

namespace Calculator

/-- How the parts of an expression are written down in symbols of some alphabet. -/
structure Spelling (α : Type) where
  num : List α → Int → Prop
  var : List α → String → Prop
  sign : Op → α
  binary : Op → α
  lparen : α
  rparen : α

namespace Spelling

def tokens : Spelling Token where
  num ts n := ts = [.num n]
  var ts name := ts = [.var name]
  sign := .unary
  binary := .binary
  lparen := .lparen
  rparen := .rparen

@[simp]
theorem tokens_binary (op : Op) : tokens.binary op = .binary op := rfl

@[simp]
theorem tokens_lparen : tokens.lparen = .lparen := rfl

@[simp]
theorem tokens_rparen : tokens.rparen = .rparen := rfl

/-- An expression in characters, where every sign counts by itself. -/
def characters : Spelling Char where
  num cs n := (readNat? cs).map Int.ofNat = some n
  var cs name := isIdentifier cs = true ∧ name = String.ofList cs
  sign := Op.symbol
  binary := Op.symbol
  lparen := '('
  rparen := ')'

@[simp]
theorem characters_sign (op : Op) : characters.sign op = op.symbol := rfl

end Spelling

def Op.Additive (op : Op) : Prop := op = .add ∨ op = .sub

def Op.Multiplicative (op : Op) : Prop := op = .mul ∨ op = .div

inductive Part
  | sum
  | term
  | factor
  | power
  | atom
  deriving DecidableEq, Repr

/-- A row of symbols is a part of an expression and stands for a tree. Sums and terms group to the
left and powers to the right; a sign binds looser than a power and tighter than a term. -/
inductive Reads {α : Type} (s : Spelling α) : Part → List α → Expr → Prop
  | num {w : List α} {n : Int} : s.num w n → Reads s .atom w (.num n)
  | var {w : List α} {name : String} : s.var w name → Reads s .atom w (.var name)
  | parens {w : List α} {e : Expr} :
      Reads s .sum w e → Reads s .atom (s.lparen :: w ++ [s.rparen]) e
  | atom {w : List α} {e : Expr} : Reads s .atom w e → Reads s .power w e
  | pow {v w : List α} {a b : Expr} :
      Reads s .atom v a → Reads s .factor w b →
        Reads s .power (v ++ s.binary .pow :: w) (.binary .pow a b)
  | power {w : List α} {e : Expr} : Reads s .power w e → Reads s .factor w e
  | sign {op : Op} {w : List α} {e : Expr} :
      op.Additive → Reads s .factor w e → Reads s .factor (s.sign op :: w) (.unary op e)
  | factor {w : List α} {e : Expr} : Reads s .factor w e → Reads s .term w e
  | mul {op : Op} {v w : List α} {a b : Expr} :
      op.Multiplicative → Reads s .term v a → Reads s .factor w b →
        Reads s .term (v ++ s.binary op :: w) (.binary op a b)
  | term {w : List α} {e : Expr} : Reads s .term w e → Reads s .sum w e
  | add {op : Op} {v w : List α} {a b : Expr} :
      op.Additive → Reads s .sum v a → Reads s .term w b →
        Reads s .sum (v ++ s.binary op :: w) (.binary op a b)

end Calculator
