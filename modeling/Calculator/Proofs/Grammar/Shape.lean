import Calculator.Proofs.Grammar.Closure
import Calculator.Proofs.Postfix.Height
import Calculator.Proofs.Yard.Depth

namespace Calculator

namespace Token

def beginsOperand : Token → Bool
  | num _ | var _ | word _ | unary _ | lparen => true
  | binary _ | rparen => false

/-- How often an operand stands directly behind another one, given whether one ends in front of
the tokens. -/
def juxtapositions : Bool → List Token → Nat
  | _, [] => 0
  | b, t :: ts => (if b && t.beginsOperand then 1 else 0) + juxtapositions t.endsOperand ts

/-- How often an operand is missing, given whether one ends in front of the tokens. -/
def vacancies : Bool → List Token → Nat
  | b, [] => if b then 0 else 1
  | b, t :: ts => (if b || t.beginsOperand then 0 else 1) + vacancies t.endsOperand ts

/-- Between two operands stands a binary operator, unless they are juxtaposed or one is missing. -/
theorem operands_add_vacancies (b : Bool) (ts : List Token) :
    ts.countP isOperand + vacancies b ts + b.toNat =
      ts.countP isBinary + juxtapositions b ts + 1 := by
  induction ts generalizing b with
  | nil => cases b <;> rfl
  | cons t ts ih =>
    have h := ih t.endsOperand
    rw [List.countP_cons, List.countP_cons, vacancies, juxtapositions]
    cases t <;> cases b <;>
      simp only [isOperand, isBinary, beginsOperand, endsOperand, Bool.toNat_true, Bool.toNat_false,
        Bool.and_true, Bool.and_false, Bool.or_true, Bool.or_false, Bool.false_eq_true, if_true,
        if_false] at h ⊢ <;>
      omega

def Continues (r : List Token) : Prop := ∀ v, Fits .tokens .sum v → Fits .tokens .sum (v ++ r)

/-- What is left of a line inside so many parentheses, behind an expression. -/
def Closes : Nat → List Token → Prop
  | 0, ts => ts = []
  | depth + 1, ts => ∃ r rest, ts = .rparen :: (r ++ rest) ∧ Continues r ∧ Closes depth rest

theorem continues_nil : Continues [] := by
  intro v hv
  rw [List.append_nil]
  exact hv

theorem continues_binary (op : Op) {w : List Token} (h : Fits .tokens .sum w) :
    Continues (.binary op :: w) := fun _ hv ↦ hv.binary op h

variable {vars : Variables} {depth : Nat} {ts : List Token}

theorem shape {b : Bool} (hd : ts.foldlM (Yard.deepen vars) depth = .ok 0)
    (hs : ∀ op, .unary op ∈ ts → op.Additive) (hj : juxtapositions b ts = 0)
    (hv : vacancies b ts = 0) :
    ∃ w rest, ts = w ++ rest ∧ Closes depth rest ∧
      match b with
      | true => Continues w
      | false => Fits .tokens .sum w := by
  induction ts generalizing b depth with
  | nil =>
    cases hd
    cases b with
    | true => exact ⟨[], [], rfl, rfl, continues_nil⟩
    | false => cases hv
  | cons t ts ih =>
    rw [juxtapositions] at hj
    rw [vacancies] at hv
    have hj' : juxtapositions t.endsOperand ts = 0 := by omega
    have hv' : vacancies t.endsOperand ts = 0 := by omega
    have hs' : ∀ op, .unary op ∈ ts → op.Additive := fun op h ↦ hs op (.tail t h)
    rw [List.foldlM_cons] at hd
    obtain ⟨depth', ht, hd⟩ := bind_eq_ok_iff.1 hd
    obtain ⟨w, rest, rfl, hc, hw⟩ := ih hd hs' hj' hv'
    obtain rfl : b = !t.beginsOperand := by
      cases b <;> cases hb : t.beginsOperand <;> simp [hb] at hj hv ⊢
    cases t with
    | num n =>
      cases ht
      exact ⟨.num n :: w, rest, rfl, hc, hw [.num n] (Fits.sum_of_atom ⟨_, .num rfl⟩)⟩
    | var name =>
      rw [Yard.deepen] at ht
      split at ht
      · cases ht
        exact ⟨.var name :: w, rest, rfl, hc, hw [.var name] (Fits.sum_of_atom ⟨_, .var rfl⟩)⟩
      · cases ht
    | word text => cases ht
    | unary op =>
      cases ht
      exact ⟨.unary op :: w, rest, rfl, hc, hw.sign_sum (hs op List.mem_cons_self)⟩
    | binary op =>
      cases ht
      exact ⟨.binary op :: w, rest, rfl, hc, continues_binary op hw⟩
    | lparen =>
      cases ht
      obtain ⟨r, rest', rfl, hr, hc⟩ := hc
      refine ⟨.lparen :: w ++ [.rparen] ++ r, rest', ?_, hc, hr _ hw.parens.sum_of_atom⟩
      simp
    | rparen =>
      cases depth with
      | zero => cases ht
      | succ depth =>
        cases ht
        exact ⟨[], .rparen :: (w ++ rest), rfl, ⟨w, rest, rfl, hw, hc⟩, continues_nil⟩

end Token

theorem Fits.of_shape {vars : Variables} {ts : List Token}
    (hd : ts.foldlM (Yard.deepen vars) 0 = .ok 0) (hs : ∀ op, .unary op ∈ ts → op.Additive)
    (hj : Token.juxtapositions false ts = 0) (hv : Token.vacancies false ts = 0) :
    Fits .tokens .sum ts := by
  obtain ⟨w, rest, rfl, hc, hw⟩ := Token.shape hd hs hj hv
  cases hc
  rw [List.append_nil]
  exact hw

end Calculator
