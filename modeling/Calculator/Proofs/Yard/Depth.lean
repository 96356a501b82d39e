import Calculator.Proofs.Yard.Levels

namespace Calculator

namespace Variables

def missing? (vars : Variables) (names : List String) : Option String :=
  names.find? fun name ↦ !vars.contains name

variable {vars : Variables}

theorem missing?_append (names others : List String) :
    vars.missing? (names ++ others) = (vars.missing? names).or (vars.missing? others) :=
  List.find?_append

theorem missing?_eq_none {names : List String} :
    vars.missing? names = none ↔ ∀ name ∈ names, vars.contains name = true := by
  simp [missing?]

end Variables

namespace Yard

variable {vars : Variables}

theorem feed_cons_eq (y : Yard) (t : Token) (ts : List Token) :
    y.feed vars (t :: ts) =
      y.step vars t >>= fun r ↦ r.2.feed vars ts >>= fun q ↦ pure (r.1 ++ q.1, q.2) := rfl

theorem feed_cons_eq_ok_iff {y y'' : Yard} {t : Token} {ts whole : List Token} :
    y.feed vars (t :: ts) = .ok (whole, y'') ↔
      ∃ out y' rest, y.step vars t = .ok (out, y') ∧ y'.feed vars ts = .ok (rest, y'') ∧
        out ++ rest = whole := by
  simp only [feed, bind_eq_ok_iff]
  constructor
  · rintro ⟨⟨out, y'⟩, hs, ⟨rest, z⟩, hf, h⟩
    cases h
    exact ⟨out, y', rest, hs, hf, rfl⟩
  · rintro ⟨out, y', rest, hs, hf, rfl⟩
    exact ⟨(out, y'), hs, (rest, y''), hf, rfl⟩

theorem feed_cons {y y' y'' : Yard} {t : Token} {ts out rest : List Token}
    (h : y.step vars t = .ok (out, y')) (h' : y'.feed vars ts = .ok (rest, y'')) :
    y.feed vars (t :: ts) = .ok (out ++ rest, y'') :=
  feed_cons_eq_ok_iff.2 ⟨out, y', rest, h, h', rfl⟩

theorem feed_append_eq (y : Yard) (ts us : List Token) :
    y.feed vars (ts ++ us) =
      y.feed vars ts >>= fun r ↦ (r.2.feed vars us).map fun q ↦ (r.1 ++ q.1, q.2) := by
  induction ts generalizing y with
  | nil =>
    change y.feed vars us = (y.feed vars us).map fun q ↦ ([] ++ q.1, q.2)
    cases y.feed vars us <;> rfl
  | cons t ts ih =>
    rw [List.cons_append, feed_cons_eq, feed_cons_eq]
    cases y.step vars t with
    | error e => rfl
    | ok r =>
      change (r.2.feed vars (ts ++ us) >>= _) = (r.2.feed vars ts >>= _) >>= _
      rw [ih]
      cases r.2.feed vars ts with
      | error e => rfl
      | ok q =>
        change ((q.2.feed vars us).map _ >>= _) = (q.2.feed vars us).map _
        cases q.2.feed vars us with
        | error e => rfl
        | ok p => simp [Except.map, bind, Except.bind, pure, Except.pure]

theorem feed_append {y y' y'' : Yard} {ts us out rest : List Token}
    (h : y.feed vars ts = .ok (out, y')) (h' : y'.feed vars us = .ok (rest, y'')) :
    y.feed vars (ts ++ us) = .ok (out ++ rest, y'') := by
  rw [feed_append_eq, h]
  change (y'.feed vars us).map (fun q ↦ (out ++ q.1, q.2)) = _
  rw [h']
  rfl

def deepen (vars : Variables) : Nat → Token → Except YardError Nat
  | depth, .var name => if vars.contains name then .ok depth else .error (.unknownVariable name)
  | _, .word text => .error (.invalidWord text)
  | depth, .lparen => .ok (depth + 1)
  | 0, .rparen => .error .unbalanced
  | depth + 1, .rparen => .ok depth
  | depth, .num _ | depth, .unary _ | depth, .binary _ => .ok depth

theorem map_step (y : Yard) (t : Token) :
    (y.step vars t).map (fun r ↦ r.2.outer.length) = deepen vars y.outer.length t := by
  cases t with
  | var name =>
    rw [step, deepen]
    split <;> rfl
  | rparen =>
    rw [step]
    split
    · next h => rw [h]; rfl
    · next h => rw [h]; rfl
  | num | word | unary | binary | lparen => rfl

/-- The waiting operators play no part in what the yard refuses: only names, words and the number
of open parentheses do. -/
theorem map_feed (y : Yard) (ts : List Token) :
    (y.feed vars ts).map (fun r ↦ r.2.outer.length) = ts.foldlM (deepen vars) y.outer.length := by
  induction ts generalizing y with
  | nil => rfl
  | cons t ts ih =>
    rw [List.foldlM_cons, ← map_step, feed_cons_eq]
    cases y.step vars t with
    | error e => rfl
    | ok r =>
      change Except.map _ (r.2.feed vars ts >>= _) = ts.foldlM (deepen vars) r.2.outer.length
      rw [← ih]
      cases r.2.feed vars ts <;> rfl

theorem foldlM_deepen_of_feed {y y' : Yard} {ts out : List Token}
    (h : y.feed vars ts = .ok (out, y')) :
    ts.foldlM (deepen vars) y.outer.length = .ok y'.outer.length := by
  rw [← map_feed, h]
  rfl

theorem exists_deepen_of_mem {ts : List Token} {depth depth' : Nat} {t : Token}
    (h : ts.foldlM (deepen vars) depth = .ok depth') (ht : t ∈ ts) :
    ∃ d d', deepen vars d t = .ok d' := by
  induction ts generalizing depth with
  | nil => cases ht
  | cons u ts ih =>
    rw [List.foldlM_cons] at h
    obtain ⟨mid, hu, hr⟩ := bind_eq_ok_iff.1 h
    rcases List.mem_cons.1 ht with rfl | ht
    · exact ⟨depth, mid, hu⟩
    · exact ih hr ht

theorem feed_eq_error_iff {y : Yard} {ts : List Token} {e : YardError} :
    y.feed vars ts = .error e ↔ ts.foldlM (deepen vars) y.outer.length = .error e := by
  rw [← map_feed, map_eq_error_iff]

end Yard

theorem toPostfix_eq_ok_iff {vars : Variables} {ts ps : List Token} :
    toPostfix vars ts = .ok ps ↔
      ∃ out level, Yard.empty.feed vars ts = .ok (out, ⟨level, []⟩) ∧
        out ++ level.map Operator.token = ps := by
  simp only [toPostfix_eq_feed, bind_eq_ok_iff]
  constructor
  · rintro ⟨⟨out, level, outer⟩, hf, rest, he, h⟩
    cases outer with
    | nil => cases he; cases h; exact ⟨out, level, hf, rfl⟩
    | cons => cases he
  · rintro ⟨out, level, hf, rfl⟩
    exact ⟨_, hf, _, rfl, rfl⟩

theorem foldlM_deepen_of_toPostfix {vars : Variables} {ts ps : List Token}
    (h : toPostfix vars ts = .ok ps) : ts.foldlM (Yard.deepen vars) 0 = .ok 0 := by
  obtain ⟨out, level, hf, _⟩ := toPostfix_eq_ok_iff.1 h
  exact Yard.foldlM_deepen_of_feed hf

/-- The yard refuses every word and every name that is not defined. -/
theorem admitted_of_toPostfix {vars : Variables} {ts ps : List Token} {t : Token}
    (h : toPostfix vars ts = .ok ps) (ht : t ∈ ts) :
    (∀ text, t ≠ .word text) ∧ ∀ name, t = .var name → vars.contains name = true := by
  obtain ⟨d, d', hd⟩ := Yard.exists_deepen_of_mem (foldlM_deepen_of_toPostfix h) ht
  refine ⟨?_, ?_⟩
  · rintro text rfl
    cases d <;> cases hd
  · rintro name rfl
    cases hc : vars.contains name with
    | true => rfl
    | false => simp [Yard.deepen, hc] at hd

theorem toPostfix_eq_error {vars : Variables} {ts : List Token} {e : YardError}
    (h : Yard.empty.feed vars ts = .error e) : toPostfix vars ts = .error e := by
  rw [toPostfix_eq_feed]
  exact bind_eq_error_iff.2 (.inl h)

end Calculator
