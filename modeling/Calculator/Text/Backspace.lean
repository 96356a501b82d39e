import Calculator.Text.Grapheme

namespace Calculator.Text

def backspace : Char := '\x08'

namespace Typed

def step (typed : List (List Char)) (g : List Char) : List (List Char) :=
  if g = [backspace] then typed.tail else g :: typed

theorem foldl_step {gs : List (List Char)} (h : ∀ g ∈ gs, g ≠ [backspace])
    (typed : List (List Char)) : gs.foldl step typed = gs.reverse ++ typed := by
  induction gs generalizing typed with
  | nil => rfl
  | cons g gs ih =>
    obtain ⟨hg, hgs⟩ := List.forall_mem_cons.1 h
    simp [step, hg, ih hgs]

end Typed

/-- What is left of a typed text: each backspace takes away the grapheme before it, if there is one
left. -/
def typed (cs : List Char) : List Char :=
  ((graphemes cs).foldl Typed.step []).reverse.flatten

theorem typed_of_notMem {cs : List Char} (h : backspace ∉ cs) : typed cs = cs := by
  have hg : ∀ g ∈ graphemes cs, g ≠ [backspace] := by
    rintro g hg rfl
    exact h (flatten_graphemes cs ▸ List.mem_flatten_of_mem hg (List.mem_singleton_self _))
  rw [typed, Typed.foldl_step hg, List.append_nil, List.reverse_reverse, flatten_graphemes]

end Calculator.Text
