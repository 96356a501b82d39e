import Calculator.Text.Backspace
import Calculator.Text.Lines

namespace Calculator.Text

/-- Hands out the lines of a text. What it makes of a line depends on nothing but its characters,
and a line that holds no backspace stays as it is. -/
structure LineReader where
  edit : List Char → List Char
  edit_of_notMem : ∀ cs, backspace ∉ cs → edit cs = cs

namespace LineReader

def typing : LineReader := ⟨typed, fun _ ↦ typed_of_notMem⟩

def read (r : LineReader) (input : String) : List String :=
  (lines input.toList).map fun cs ↦ String.ofList (r.edit cs)

theorem read_append (r : LineReader) {s : String} (h : s = "" ∨ ∃ t, s = t ++ "\n")
    (input : String) : r.read (s ++ input) = r.read s ++ r.read input := by
  rcases h with rfl | ⟨t, rfl⟩
  · simp [read, lines]
  · have hl : (t ++ "\n" ++ input).toList = t.toList ++ '\n' :: input.toList := by simp
    have ht : (t ++ "\n").toList = t.toList ++ ['\n'] := String.toList_append
    rw [read, hl, lines_append, List.map_append, read, ht, read]

end LineReader

end Calculator.Text
