import Calculator.Text.Conjunct
import Calculator.Text.Pictographic

namespace Calculator.Text

namespace Grapheme

/-- Regional indicators go in pairs: one is the second of its pair if it follows an odd number. -/
def endsFlag (before : List Char) (c : Char) : Bool :=
  isRegionalIndicator c && (before.takeWhile isRegionalIndicator).length % 2 == 1

def extendsEmoji (before : List Char) (c : Char) : Bool :=
  isPictographic c &&
    match before with
    | [] => false
    | d :: before =>
      GraphemeBreak.of d == .joiner &&
        (before.dropWhile fun e ↦ GraphemeBreak.of e == .extend).head?.any isPictographic

def extendsConjunct (before : List Char) (c : Char) : Bool :=
  isConjunctConsonant c && (before.takeWhile isConjunctMark).any isConjunctLinker &&
    (before.dropWhile isConjunctMark).head?.any isConjunctConsonant

/-- Whether a character belongs to the grapheme of the characters before it, the nearest of which
comes first. -/
def joins (before : List Char) (c : Char) : Bool :=
  match before with
  | [] => false
  | d :: _ =>
    d == '\r' && c == '\n' || (GraphemeBreak.of d).joins (GraphemeBreak.of c) ||
      endsFlag before c || extendsEmoji before c || extendsConjunct before c

def push (c : Char) : List (List Char) → List (List Char)
  | [] => [[c]]
  | g :: gs => (c :: g) :: gs

def split (before : List Char) : List Char → List (List Char)
  | [] => []
  | c :: cs =>
    let gs := split (c :: before) cs
    if cs.head?.any (joins (c :: before)) then push c gs else [c] :: gs

theorem flatten_push (c : Char) (gs : List (List Char)) : (push c gs).flatten = c :: gs.flatten := by
  cases gs <;> rfl

theorem flatten_split (before cs : List Char) : (split before cs).flatten = cs := by
  induction cs generalizing before with
  | nil => rfl
  | cons c cs ih =>
    simp only [split]
    split
    · rw [flatten_push, ih]
    · rw [List.flatten_cons, ih, List.singleton_append]

end Grapheme

/-- The extended grapheme clusters of a text: what a reader takes for its characters. -/
def graphemes (cs : List Char) : List (List Char) := Grapheme.split [] cs

theorem flatten_graphemes (cs : List Char) : (graphemes cs).flatten = cs :=
  Grapheme.flatten_split [] cs

end Calculator.Text
