import Calculator.Proofs.Variables
import Calculator.Proofs.Yard.Precedence

namespace Calculator

namespace Expr

def root : Expr → Token
  | num n => .num n
  | var name => .var name
  | unary op _ => .unary op
  | binary op _ _ => .binary op

def operands : Expr → List Token
  | num _ | var _ => []
  | unary _ a => a.postorder
  | binary _ a b => a.postorder ++ b.postorder

theorem postorder_eq (e : Expr) : e.postorder = e.operands ++ [e.root] := by
  cases e <;> rfl

theorem postorder_append_eq {a b : Expr} {ts us : List Token}
    (h : ts ++ a.postorder = us ++ b.postorder) :
    ts ++ a.operands = us ++ b.operands ∧ [a.root] = [b.root] := by
  rw [postorder_eq a, postorder_eq b, ← List.append_assoc, ← List.append_assoc] at h
  exact List.append_inj' h rfl

/-- Read from its end, a row in postfix order tells what its last tree is and where that begins. -/
theorem postorder_append_inj {a b : Expr} {ts us : List Token}
    (h : ts ++ a.postorder = us ++ b.postorder) : a = b ∧ ts = us := by
  induction a generalizing b ts us with
  | num n | var name =>
    obtain ⟨hl, ht⟩ := postorder_append_eq h
    cases b <;> cases ht
    exact ⟨rfl, List.append_cancel_right hl⟩
  | unary op a ih =>
    obtain ⟨hl, ht⟩ := postorder_append_eq h
    cases b <;> cases ht
    obtain ⟨rfl, rfl⟩ := ih hl
    exact ⟨rfl, rfl⟩
  | binary op a₁ a₂ ih₁ ih₂ =>
    obtain ⟨hl, ht⟩ := postorder_append_eq h
    cases b <;> cases ht
    change _ ++ (_ ++ _) = us ++ (_ ++ _) at hl
    rw [← List.append_assoc, ← List.append_assoc] at hl
    obtain ⟨rfl, hl₁⟩ := ih₂ hl
    obtain ⟨rfl, rfl⟩ := ih₁ hl₁
    exact ⟨rfl, rfl⟩

theorem postorder_inj {a b : Expr} (h : a.postorder = b.postorder) : a = b :=
  (postorder_append_inj (congrArg ([] ++ ·) h)).1

end Expr

/-- A row of tokens has one tree at most: where all names are defined, the yard finds its
postorder. -/
theorem Reads.tree_unique {w : List Token} {a b : Expr} (ha : Reads .tokens .sum w a)
    (hb : Reads .tokens .sum w b) : a = b := by
  obtain ⟨vars, hv⟩ := Variables.exists_contains (a.names ++ b.names)
  have hva : vars.missing? a.names = none :=
    Variables.missing?_eq_none.2 fun name h ↦ hv name (List.mem_append_left _ h)
  have hvb : vars.missing? b.names = none :=
    Variables.missing?_eq_none.2 fun name h ↦ hv name (List.mem_append_right _ h)
  have h := toPostfix_of_reads vars ha
  rw [toPostfix_of_reads vars hb, hva, hvb] at h
  exact (Expr.postorder_inj (Except.ok.inj h)).symm

theorem Reads.var_mem {p : Part} {w : List Token} {e : Expr} (h : Reads .tokens p w e) :
    ∀ name ∈ e.names, .var name ∈ w := by
  induction h with
  | num hw => exact nofun
  | var hw =>
    cases hw
    intro name hn
    exact List.mem_singleton.2 (congrArg Token.var (List.mem_singleton.1 hn))
  | parens hw ih =>
    intro name hn
    exact List.mem_append_left _ (List.mem_cons_of_mem _ (ih name hn))
  | atom hw ih | power hw ih | factor hw ih | term hw ih => exact ih
  | sign hop hw ih => exact fun name hn ↦ List.mem_cons_of_mem _ (ih name hn)
  | pow ha hb iha ihb | mul hop ha hb iha ihb | add hop ha hb iha ihb =>
    intro name hn
    rcases List.mem_append.1 hn with hn | hn
    · exact List.mem_append_left _ (iha name hn)
    · exact List.mem_append_right _ (List.mem_cons_of_mem _ (ihb name hn))

/-- Where its names are defined, a sentence is put into the postorder of its tree, and it has no
other tree. -/
theorem toPostfix_sentence (vars : Variables) {w : List Token} {e : Expr}
    (h : Reads .tokens .sum w e) (hv : ∀ name, .var name ∈ w → vars.contains name = true) :
    toPostfix vars w = .ok e.postorder ∧ ∀ e', Reads .tokens .sum w e' → e' = e := by
  have hn : vars.missing? e.names = none :=
    Variables.missing?_eq_none.2 fun name hm ↦ hv name (h.var_mem name hm)
  constructor
  · rw [toPostfix_of_reads vars h, hn]
  · exact fun e' h' ↦ h'.tree_unique h

/-- The second sign waits above the power, which binds tighter. -/
theorem toPostfix_signed_exponent :
    toPostfix (.ofList [("x", 2)])
        [.unary .sub, .num 3, .binary .pow, .unary .sub, .var "x", .binary .mul, .num 5] =
      .ok [.num 3, .var "x", .unary .sub, .binary .pow, .unary .sub, .num 5, .binary .mul] := by
  have hx : Reads .tokens .factor [.unary .sub, .var "x"] (.unary .sub (.var "x")) :=
    .sign (.inr rfl) (.power (.atom (.var rfl)))
  have h₃ : Reads .tokens .atom [.num 3] (.num 3) := .num rfl
  have hp : Reads .tokens .factor [.unary .sub, .num 3, .binary .pow, .unary .sub, .var "x"]
      (.unary .sub (.binary .pow (.num 3) (.unary .sub (.var "x")))) :=
    .sign (.inr rfl) (.power (.pow h₃ hx))
  have h₅ : Reads .tokens .atom [.num 5] (.num 5) := .num rfl
  have hm : Reads .tokens .sum
      [.unary .sub, .num 3, .binary .pow, .unary .sub, .var "x", .binary .mul, .num 5]
      (.binary .mul (.unary .sub (.binary .pow (.num 3) (.unary .sub (.var "x")))) (.num 5)) :=
    .term (.mul (.inl rfl) (.factor hp) (.power (.atom h₅)))
  have hv : ∀ name, Token.var name ∈
      [Token.unary .sub, .num 3, .binary .pow, .unary .sub, .var "x", .binary .mul, .num 5] →
      (Variables.ofList [("x", 2)]).contains name = true := by
    intro name hn
    have he : name = "x" := by simpa using hn
    rw [he]
    rfl
  exact (toPostfix_sentence (.ofList [("x", 2)]) hm hv).1

end Calculator
