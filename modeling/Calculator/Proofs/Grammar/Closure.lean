import Calculator.Grammar

namespace Calculator

def Fits {α : Type} (s : Spelling α) (p : Part) (w : List α) : Prop := ∃ e, Reads s p w e

namespace Fits

variable {α : Type} {s : Spelling α} {op : Op} {v w : List α}

theorem factor_of_atom (h : Fits s .atom w) : Fits s .factor w :=
  h.imp fun _ h ↦ .power (.atom h)

theorem term_of_factor (h : Fits s .factor w) : Fits s .term w :=
  h.imp fun _ h ↦ .factor h

theorem sum_of_term (h : Fits s .term w) : Fits s .sum w :=
  h.imp fun _ h ↦ .term h

theorem sum_of_atom (h : Fits s .atom w) : Fits s .sum w :=
  h.factor_of_atom.term_of_factor.sum_of_term

theorem parens (h : Fits s .sum w) : Fits s .atom (s.lparen :: w ++ [s.rparen]) :=
  h.imp fun _ h ↦ .parens h

theorem pow (h : Fits s .atom v) (h' : Fits s .factor w) :
    Fits s .factor (v ++ s.binary .pow :: w) := by
  obtain ⟨a, ha⟩ := h
  obtain ⟨b, hb⟩ := h'
  exact ⟨_, .power (.pow ha hb)⟩

theorem mul (hop : op.Multiplicative) (h : Fits s .term v) (h' : Fits s .factor w) :
    Fits s .term (v ++ s.binary op :: w) := by
  obtain ⟨a, ha⟩ := h
  obtain ⟨b, hb⟩ := h'
  exact ⟨_, .mul hop ha hb⟩

theorem add (hop : op.Additive) (h : Fits s .sum v) (h' : Fits s .term w) :
    Fits s .sum (v ++ s.binary op :: w) := by
  obtain ⟨a, ha⟩ := h
  obtain ⟨b, hb⟩ := h'
  exact ⟨_, .add hop ha hb⟩

/-- What can stand in front of a factor can stand in front of a term, since the term begins with
one. -/
theorem prepend_term {u : List α} (hu : ∀ w, Fits s .factor w → Fits s .term (u ++ w))
    (h : Fits s .term w) : Fits s .term (u ++ w) := by
  obtain ⟨e, h⟩ := h
  generalize hp : Part.term = p at h
  induction h with
  | factor hw ih => exact hu _ ⟨_, hw⟩
  | mul hop ha hb iha ihb =>
    rw [← List.append_assoc]
    exact mul hop (iha hp) ⟨_, hb⟩
  | num | var | parens | atom | pow | power | sign | term | add => cases hp

theorem prepend_sum {u : List α} (hu : ∀ w, Fits s .term w → Fits s .sum (u ++ w))
    (h : Fits s .sum w) : Fits s .sum (u ++ w) := by
  obtain ⟨e, h⟩ := h
  generalize hp : Part.sum = p at h
  induction h with
  | term hw ih => exact hu _ ⟨_, hw⟩
  | add hop ha hb iha ihb =>
    rw [← List.append_assoc]
    exact add hop (iha hp) ⟨_, hb⟩
  | num | var | parens | atom | pow | power | sign | factor | mul => cases hp

theorem sign (hop : op.Additive) (h : Fits s .factor w) : Fits s .factor (s.sign op :: w) := by
  obtain ⟨e, h⟩ := h
  exact ⟨_, .sign hop h⟩

theorem sign_term (hop : op.Additive) (h : Fits s .term w) : Fits s .term (s.sign op :: w) :=
  prepend_term (u := [s.sign op]) (fun _ h ↦ (sign hop h).term_of_factor) h

theorem sign_sum (hop : op.Additive) (h : Fits s .sum w) : Fits s .sum (s.sign op :: w) :=
  prepend_sum (u := [s.sign op]) (fun _ h ↦ (sign_term hop h).sum_of_term) h

theorem pow_sum (h : Fits s .atom v) (h' : Fits s .sum w) :
    Fits s .sum (v ++ s.binary .pow :: w) := by
  rw [List.append_cons]
  refine prepend_sum (fun w hw ↦ (prepend_term (fun w hw ↦ ?_) hw).sum_of_term) h'
  rw [← List.append_cons]
  exact (pow h hw).term_of_factor

theorem mul_sum (hop : op.Multiplicative) (h : Fits s .term v) (h' : Fits s .sum w) :
    Fits s .sum (v ++ s.binary op :: w) := by
  rw [List.append_cons]
  refine prepend_sum (fun w hw ↦ (prepend_term (fun w hw ↦ ?_) hw).sum_of_term) h'
  rw [← List.append_cons]
  exact mul hop h hw

theorem add_sum (hop : op.Additive) (h : Fits s .sum v) (h' : Fits s .sum w) :
    Fits s .sum (v ++ s.binary op :: w) := by
  rw [List.append_cons]
  refine prepend_sum (fun w hw ↦ ?_) h'
  rw [← List.append_cons]
  exact add hop h hw

theorem sum_pow {p : Part} {e : Expr} (h : Reads s p v e) (h' : Fits s .sum w) :
    Fits s .sum (v ++ s.binary .pow :: w) := by
  induction h with
  | num hw => exact pow_sum ⟨_, .num hw⟩ h'
  | var hw => exact pow_sum ⟨_, .var hw⟩ h'
  | parens hw ih => exact pow_sum ⟨_, .parens hw⟩ h'
  | atom hw ih | power hw ih | factor hw ih | term hw ih => exact ih
  | pow ha hb iha ihb =>
    rw [List.append_assoc]
    exact pow_sum ⟨_, ha⟩ ihb
  | sign hop hw ih => exact sign_sum hop ih
  | mul hop ha hb iha ihb =>
    rw [List.append_assoc]
    exact mul_sum hop ⟨_, ha⟩ ihb
  | add hop ha hb iha ihb =>
    rw [List.append_assoc]
    exact add_sum hop ⟨_, ha⟩ ihb

theorem sum_mul (hop : op.Multiplicative) (h : Fits s .sum v) (h' : Fits s .sum w) :
    Fits s .sum (v ++ s.binary op :: w) := by
  obtain ⟨e, h⟩ := h
  cases h with
  | term h => exact mul_sum hop ⟨_, h⟩ h'
  | add hop' ha hb =>
    rw [List.append_assoc]
    exact add_sum hop' ⟨_, ha⟩ (mul_sum hop ⟨_, hb⟩ h')

/-- Any operator between two expressions makes one, however tightly it binds. -/
theorem binary (op : Op) (h : Fits s .sum v) (h' : Fits s .sum w) :
    Fits s .sum (v ++ s.binary op :: w) := by
  cases op with
  | add => exact add_sum (.inl rfl) h h'
  | sub => exact add_sum (.inr rfl) h h'
  | mul => exact sum_mul (.inl rfl) h h'
  | div => exact sum_mul (.inr rfl) h h'
  | pow =>
    obtain ⟨e, h⟩ := h
    exact sum_pow h h'

end Fits

end Calculator
