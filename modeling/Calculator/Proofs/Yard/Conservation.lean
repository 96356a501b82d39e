import Calculator.Proofs.Yard.Depth

namespace Calculator

def Token.isParen : Token → Bool
  | lparen | rparen => true
  | num _ | var _ | word _ | unary _ | binary _ => false

namespace Yard

variable {vars : Variables}

def waiting (y : Yard) : List Token := (y.level ++ y.outer.flatten).map Operator.token

theorem step_perm {y y' : Yard} {t : Token} {out : List Token}
    (h : y.step vars t = .ok (out, y')) :
    (out ++ y'.waiting).Perm ([t].filter (!·.isParen) ++ y.waiting) := by
  cases t with
  | num n => cases h; exact .refl _
  | var name =>
    rw [step] at h
    split at h
    · cases h; exact .refl _
    · cases h
  | word text => cases h
  | unary op => cases h; exact .refl _
  | binary op =>
    cases h
    have hl := List.takeWhile_append_dropWhile (p := Operator.yields op) (l := y.level)
    have hw : y.waiting = (y.level.takeWhile (Operator.yields op)).map Operator.token ++
        (y.level.dropWhile (Operator.yields op) ++ y.outer.flatten).map Operator.token := by
      rw [← List.map_append, ← List.append_assoc, hl]
      rfl
    rw [hw]
    exact List.perm_middle
  | lparen => cases h; exact .refl _
  | rparen =>
    rw [step] at h
    split at h
    · cases h
    · next level outer ho =>
      cases h
      unfold waiting
      rw [ho, ← List.map_append]
      exact .refl _

open scoped List in
theorem feed_perm {y y' : Yard} {ts out : List Token} (h : y.feed vars ts = .ok (out, y')) :
    (out ++ y'.waiting).Perm (ts.filter (!·.isParen) ++ y.waiting) := by
  induction ts generalizing y out with
  | nil => cases h; exact .refl _
  | cons t ts ih =>
    obtain ⟨first, mid, rest, hs, hf, rfl⟩ := feed_cons_eq_ok_iff.1 h
    have hfirst := step_perm hs
    have hrest := ih hf
    calc first ++ rest ++ y'.waiting
        _ = first ++ (rest ++ y'.waiting) := List.append_assoc _ _ _
        _ ~ first ++ (ts.filter (!·.isParen) ++ mid.waiting) := hrest.append_left first
        _ ~ ts.filter (!·.isParen) ++ (first ++ mid.waiting) := List.perm_append_comm_assoc _ _ _
        _ ~ ts.filter (!·.isParen) ++ ([t].filter (!·.isParen) ++ y.waiting) :=
          hfirst.append_left _
        _ ~ [t].filter (!·.isParen) ++ (ts.filter (!·.isParen) ++ y.waiting) :=
          List.perm_append_comm_assoc _ _ _
        _ = (t :: ts).filter (!·.isParen) ++ y.waiting := by
          rw [← List.append_assoc, ← List.filter_append]
          rfl

end Yard

theorem toPostfix_perm {vars : Variables} {ts ps : List Token} (h : toPostfix vars ts = .ok ps) :
    ps.Perm (ts.filter (!·.isParen)) := by
  obtain ⟨out, level, hf, rfl⟩ := toPostfix_eq_ok_iff.1 h
  have hp := Yard.feed_perm hf
  rw [Yard.waiting, List.flatten_nil, List.append_nil] at hp
  exact hp.trans (.of_eq (List.append_nil _))

theorem mem_of_toPostfix {vars : Variables} {ts ps : List Token} {t : Token}
    (h : toPostfix vars ts = .ok ps) (ht : t ∈ ps) : t ∈ ts ∧ t.isParen = false := by
  obtain ⟨hts, hp⟩ := List.mem_filter.1 ((toPostfix_perm h).mem_iff.1 ht)
  exact ⟨hts, by simpa using hp⟩

end Calculator
