import Calculator.Proofs.Yard.Depth

namespace Calculator

namespace Token

/-- Some parenthesis opens and is never closed: behind it there are at no point more closing than
opening ones. -/
def Unclosed (ts : List Token) : Prop :=
  ∃ us vs, ts = us ++ lparen :: vs ∧ ∀ ws, ws <+: vs → ws.count rparen ≤ ws.count lparen

end Token

open Token

/-- What there is against a token behind other tokens: a name that is not defined, a word, or a
closing parenthesis with none open. -/
inductive Offends (vars : Variables) (before : List Token) : Token → YardError → Prop
  | name {name : String} :
      vars.contains name = false → Offends vars before (.var name) (.unknownVariable name)
  | word {text : String} : Offends vars before (.word text) (.invalidWord text)
  | rparen : ¬ Unclosed before → Offends vars before .rparen .unbalanced

def Blameless (vars : Variables) (ts : List Token) : Prop :=
  ∀ us t vs e, ts = us ++ t :: vs → ¬ Offends vars us t e

variable {vars : Variables} {ts us : List Token} {t : Token} {depth depth' : Nat} {e : YardError}

namespace Yard

theorem count_deepen (h : deepen vars depth t = .ok depth') (ts : List Token) :
    depth' + (t :: ts).count .rparen + ts.count .lparen =
      depth + (t :: ts).count .lparen + ts.count .rparen := by
  cases t with
  | var name =>
    rw [deepen] at h
    split at h
    · cases h
      simp
      omega
    · cases h
  | word text => cases h
  | num | unary | binary | lparen =>
    cases h
    simp
    omega
  | rparen =>
    cases depth with
    | zero => cases h
    | succ depth =>
      cases h
      simp
      omega

theorem count_foldlM_deepen (h : ts.foldlM (deepen vars) depth = .ok depth') :
    depth' + ts.count .rparen = depth + ts.count .lparen := by
  induction ts generalizing depth with
  | nil =>
    cases h
    rfl
  | cons t ts ih =>
    obtain ⟨mid, ht, hr⟩ := bind_eq_ok_iff.1 h
    have hs := count_deepen ht ts
    have hm := ih hr
    omega

/-- A parenthesis that is open at the end was opened in the row, unless it is one of those that were
open in front of it. -/
theorem unclosed_or (h : ts.foldlM (deepen vars) depth = .ok depth') (hd : 0 < depth') :
    Unclosed ts ∨ ∀ ws, ws <+: ts → ws.count .rparen < depth + ws.count .lparen := by
  induction ts generalizing depth with
  | nil =>
    cases h
    refine .inr fun ws hw ↦ ?_
    rw [List.prefix_nil.1 hw]
    exact hd
  | cons t ts ih =>
    obtain ⟨mid, ht, hr⟩ := bind_eq_ok_iff.1 h
    rcases ih hr with ⟨us, vs, rfl, hv⟩ | hw
    · exact .inl ⟨t :: us, vs, rfl, hv⟩
    · have hmid : 0 < mid := hw [] List.nil_prefix
      cases depth with
      | zero =>
        have hc := count_deepen ht []
        rw [List.count_nil, List.count_nil] at hc
        have ho : .lparen ∈ [t] := List.count_pos_iff.1 (by omega)
        obtain rfl := List.mem_singleton.1 ho
        cases ht
        refine .inl ⟨[], ts, rfl, fun ws hp ↦ ?_⟩
        have := hw ws hp
        omega
      | succ depth =>
        refine .inr fun ws hp ↦ ?_
        rcases List.prefix_cons_iff.1 hp with rfl | ⟨vs, rfl, hv⟩
        · exact Nat.succ_pos _
        · have hc := count_deepen ht vs
          have := hw vs hv
          omega

theorem pos_iff_unclosed (h : ts.foldlM (deepen vars) 0 = .ok depth) :
    0 < depth ↔ Unclosed ts := by
  constructor
  · intro hd
    rcases unclosed_or h hd with hu | hw
    · exact hu
    · exact absurd (hw [] List.nil_prefix) (Nat.lt_irrefl 0)
  · rintro ⟨us, vs, rfl, hv⟩
    rw [List.foldlM_append] at h
    obtain ⟨mid, _, hr⟩ := bind_eq_ok_iff.1 h
    have hc : depth + vs.count .rparen = mid + 1 + vs.count .lparen := count_foldlM_deepen hr
    have := hv vs List.prefix_rfl
    omega

theorem offends_iff (h : us.foldlM (deepen vars) 0 = .ok depth) :
    Offends vars us t e ↔ deepen vars depth t = .error e := by
  constructor
  · rintro (hn | _ | hu)
    · simp [deepen, hn]
    · rfl
    · rw [← pos_iff_unclosed h, Nat.not_lt, Nat.le_zero] at hu
      rw [hu]
      rfl
  · intro he
    cases t with
    | var name =>
      rw [deepen] at he
      split at he
      · cases he
      · next hc => cases he; exact .name (Bool.eq_false_iff.2 hc)
    | word text => cases he; exact .word
    | rparen =>
      cases depth with
      | zero =>
        cases he
        exact .rparen fun hu ↦ Nat.lt_irrefl 0 ((pos_iff_unclosed h).2 hu)
      | succ depth => cases he
    | num | unary | binary | lparen => cases he

theorem blameless_iff : Blameless vars ts ↔ ∃ depth, ts.foldlM (deepen vars) 0 = .ok depth := by
  constructor
  · intro hb
    cases h : ts.foldlM (deepen vars) 0 with
    | ok depth => exact ⟨depth, rfl⟩
    | error e =>
      obtain ⟨us, t, vs, mid, hs, hu, ht⟩ := foldlM_eq_error_iff.1 h
      exact absurd ((offends_iff hu).2 ht) (hb us t vs e hs)
  · rintro ⟨depth, h⟩ us t vs e rfl ho
    rw [List.foldlM_append] at h
    obtain ⟨mid, hu, hr⟩ := bind_eq_ok_iff.1 h
    obtain ⟨_, ht, _⟩ := bind_eq_ok_iff.1 hr
    rw [(offends_iff hu).1 ho] at ht
    cases ht

theorem foldlM_deepen_eq_error_iff :
    ts.foldlM (deepen vars) 0 = .error e ↔
      ∃ us t vs, ts = us ++ t :: vs ∧ Blameless vars us ∧ Offends vars us t e := by
  rw [foldlM_eq_error_iff]
  constructor
  · rintro ⟨us, t, vs, mid, hs, hu, ht⟩
    exact ⟨us, t, vs, hs, blameless_iff.2 ⟨mid, hu⟩, (offends_iff hu).2 ht⟩
  · rintro ⟨us, t, vs, hs, hb, ho⟩
    obtain ⟨mid, hu⟩ := blameless_iff.1 hb
    exact ⟨us, t, vs, mid, hs, hu, (offends_iff hu).1 ho⟩

theorem foldlM_deepen_filter (ts : List Token) (depth : Nat) :
    (ts.filter (!·.isOperator)).foldlM (deepen vars) depth = ts.foldlM (deepen vars) depth := by
  induction ts generalizing depth with
  | nil => rfl
  | cons t ts ih =>
    rw [List.foldlM_cons]
    cases t with
    | unary op | binary op => exact ih depth
    | num | var | word | lparen | rparen =>
      rw [List.filter_cons_of_pos rfl, List.foldlM_cons]
      exact congrArg _ (funext ih)

def close : Nat → Except YardError Unit
  | 0 => .ok ()
  | _ + 1 => .error .unbalanced

theorem map_toPostfix (vars : Variables) (ts : List Token) :
    (toPostfix vars ts).map (fun _ ↦ ()) = ts.foldlM (deepen vars) 0 >>= close := by
  have hf : (empty.feed vars ts).map (fun r ↦ r.2.outer.length) = ts.foldlM (deepen vars) 0 :=
    map_feed empty ts
  rw [← hf, toPostfix_eq_feed]
  cases empty.feed vars ts with
  | error e => rfl
  | ok r =>
    obtain ⟨out, level, outer⟩ := r
    cases outer <;> rfl

end Yard

theorem toPostfix_eq_error_iff :
    toPostfix vars ts = .error e ↔
      ts.foldlM (Yard.deepen vars) 0 = .error e ∨
        ∃ depth, ts.foldlM (Yard.deepen vars) 0 = .ok depth ∧ 0 < depth ∧ e = .unbalanced := by
  rw [← map_eq_error_iff (f := fun _ ↦ ()), Yard.map_toPostfix, bind_eq_error_iff]
  refine or_congr Iff.rfl (exists_congr fun depth ↦ and_congr Iff.rfl ?_)
  cases depth with
  | zero => exact ⟨nofun, nofun⟩
  | succ depth =>
    change Except.error YardError.unbalanced = .error e ↔ _
    simp [eq_comm]

/-- The yard refuses a line for its first token that offends, or else for a parenthesis that is
never closed. Where the operators stand is no matter. -/
theorem toPostfix_refuses (vars : Variables) (ts : List Token) :
    (∀ e, toPostfix vars ts = .error e ↔
      (∃ us t vs, ts = us ++ t :: vs ∧ Blameless vars us ∧ Offends vars us t e) ∨
        (Blameless vars ts ∧ Unclosed ts ∧ e = .unbalanced)) ∧
    ((∃ ps, toPostfix vars ts = .ok ps) ↔ Blameless vars ts ∧ ¬ Unclosed ts) ∧
    ∀ e, toPostfix vars (ts.filter (!·.isOperator)) = .error e ↔ toPostfix vars ts = .error e := by
  have herror : ∀ e, toPostfix vars ts = .error e ↔
      (∃ us t vs, ts = us ++ t :: vs ∧ Blameless vars us ∧ Offends vars us t e) ∨
        (Blameless vars ts ∧ Unclosed ts ∧ e = .unbalanced) := by
    intro e
    rw [toPostfix_eq_error_iff, Yard.foldlM_deepen_eq_error_iff]
    refine or_congr Iff.rfl ⟨?_, ?_⟩
    · rintro ⟨depth, hs, hd, he⟩
      exact ⟨Yard.blameless_iff.2 ⟨depth, hs⟩, (Yard.pos_iff_unclosed hs).1 hd, he⟩
    · rintro ⟨hb, hu, he⟩
      obtain ⟨depth, hs⟩ := Yard.blameless_iff.1 hb
      exact ⟨depth, hs, (Yard.pos_iff_unclosed hs).2 hu, he⟩
  refine ⟨herror, ⟨?_, ?_⟩, ?_⟩
  · rintro ⟨ps, hp⟩
    have hs := foldlM_deepen_of_toPostfix hp
    exact ⟨Yard.blameless_iff.2 ⟨0, hs⟩, fun hu ↦ Nat.lt_irrefl 0 ((Yard.pos_iff_unclosed hs).2 hu)⟩
  · rintro ⟨hb, hu⟩
    cases hp : toPostfix vars ts with
    | ok ps => exact ⟨ps, rfl⟩
    | error e =>
      rcases (herror e).1 hp with ⟨us, t, vs, hs, _, ho⟩ | ⟨_, hc, _⟩
      · exact absurd ho (hb us t vs e hs)
      · exact absurd hc hu
  · intro e
    rw [toPostfix_eq_error_iff, toPostfix_eq_error_iff, Yard.foldlM_deepen_filter]

end Calculator
