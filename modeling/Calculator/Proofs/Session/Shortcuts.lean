import Calculator.Proofs.Session.Sentences
import Calculator.Session.Run

namespace Calculator

open Text

theorem Reads.isBlank {p : Part} {w : List Char} {e : Expr} (h : Reads .characters p w e) :
    ∀ c ∈ w, isBlank c = false := by
  induction h with
  | num hw =>
    obtain ⟨n, hn, _⟩ := Option.map_eq_some_iff.1 hw
    obtain ⟨_, hd, _⟩ := readNat?_eq_some_iff.1 hn
    intro c hc
    exact isBlank_of_isAlphanum (isAlphanum_of_isDigit (hd c hc))
  | var hw =>
    obtain ⟨_, ha⟩ := isIdentifier_iff.1 hw.1
    intro c hc
    exact isBlank_of_isAlphanum (isAlphanum_of_isAlpha (ha c hc))
  | parens hw ih =>
    refine List.forall_mem_append.2 ⟨List.forall_mem_cons.2 ⟨rfl, ih⟩, ?_⟩
    exact List.forall_mem_singleton.2 rfl
  | atom hw ih | power hw ih | factor hw ih | term hw ih => exact ih
  | @sign op w e hop hw ih => exact List.forall_mem_cons.2 ⟨op.isBlank_symbol, ih⟩
  | pow ha hb iha ihb | mul hop ha hb iha ihb | add hop ha hb iha ihb =>
    exact List.forall_mem_append.2 ⟨iha, List.forall_mem_cons.2 ⟨Op.isBlank_symbol _, ihb⟩⟩

variable {vars : Variables} {line : String}

theorem evaluate_congr {line' : String} (h : squeeze line.toList = squeeze line'.toList) :
    evaluate vars line = evaluate vars line' := by
  rw [evaluate, evaluate, tokenize, tokenize, h]

theorem evaluate_trim : evaluate vars (String.ofList (trim line.toList)) = evaluate vars line := by
  refine evaluate_congr ?_
  rw [String.toList_ofList, squeeze_trim]

theorem evaluate_of_reads_trim {e : Expr} (h : Reads .characters .sum (trim line.toList) e) :
    evaluate vars line =
      match vars.missing? e.names with
      | some name => .error (.unknownVariable name)
      | none => (e.value vars).mapError EvalError.failure := by
  have hs : squeeze line.toList = trim line.toList := by
    rw [← squeeze_trim, squeeze_of_isBlank h.isBlank]
  rw [← hs] at h
  exact evaluate_of_reads h

theorem reads_of_readInt? {cs : List Char} {n : Int} (h : readInt? cs = some n) :
    ∃ e, Reads .characters .factor cs e ∧ e.names = [] ∧ ∀ vars, e.value vars = .ok n := by
  unfold readInt? at h
  split at h
  · obtain ⟨m, hm, rfl⟩ := Option.map_eq_some_iff.1 h
    have hr : Reads .characters .atom _ (.num (Int.ofNat m)) := .num (congrArg (Option.map _) hm)
    exact ⟨.unary .sub (.num (Int.ofNat m)), .sign (.inr rfl) (.power (.atom hr)), rfl,
      fun _ ↦ rfl⟩
  · obtain ⟨m, hm, rfl⟩ := Option.map_eq_some_iff.1 h
    have hr : Reads .characters .atom _ (.num (Int.ofNat m)) := .num (congrArg (Option.map _) hm)
    exact ⟨.unary .add (.num (Int.ofNat m)), .sign (.inl rfl) (.power (.atom hr)), rfl,
      fun _ ↦ rfl⟩
  · exact ⟨.num n, .power (.atom (.num h)), rfl, fun _ ↦ rfl⟩

theorem evaluate_of_readInt? {n : Int} (h : readInt? (trim line.toList) = some n) :
    evaluate vars line = .ok n := by
  obtain ⟨e, hr, hn, hv⟩ := reads_of_readInt? h
  rw [evaluate_of_reads_trim (.term (.factor hr)), hn, hv]
  rfl

theorem evaluate_of_isIdentifier (h : isIdentifier (trim line.toList) = true) :
    evaluate vars line =
      match vars.get? (String.ofList (trim line.toList)) with
      | some v => .ok v
      | none => .error (.unknownVariable (String.ofList (trim line.toList))) := by
  have hr : Reads .characters .atom (trim line.toList) (.var (String.ofList (trim line.toList))) :=
    .var ⟨h, rfl⟩
  rw [evaluate_of_reads_trim (.term (.factor (.power (.atom hr)))), Expr.names, Expr.value,
    Variables.missing?, List.find?_singleton, Variables.contains]
  cases vars.get? (String.ofList (trim line.toList)) <;> rfl

theorem Request.ofLine_eq_ofText (hne : trim line.toList ≠ [])
    (hc : (trim line.toList).head? ≠ some '/') : ofLine line = ofText (trim line.toList) := by
  unfold ofLine
  split
  · next h => exact absurd h hne
  · next h =>
    rw [h] at hc
    exact absurd rfl hc
  · rfl

theorem toString_inj {v w : Int} (h : toString v = toString w) : v = w := by
  have hv := readInt?_toString v
  rw [h, readInt?_toString] at hv
  exact (Option.some.inj hv).symm

namespace Session

/-- The session need not look for literals and names before it evaluates a line. -/
theorem attempt_eq_map_evaluate (s : Session) (hne : trim line.toList ≠ [])
    (hc : (trim line.toList).head? ≠ some '/') (ha : '=' ∉ trim line.toList) :
    s.attempt line = (s.evaluate line).map fun v ↦ (.print (toString v), s) := by
  rw [attempt_eq, Request.ofLine_eq_ofText hne hc, Request.ofText, if_neg ha]
  cases hn : readInt? (trim line.toList) with
  | some n =>
    have he : s.evaluate line = .ok n := (s.evaluate_eq line).trans (evaluate_of_readInt? hn)
    rw [he]
    rfl
  | none =>
    by_cases hi : isIdentifier (trim line.toList) = true
    · have he : s.evaluate line = _ := (s.evaluate_eq line).trans (evaluate_of_isIdentifier hi)
      simp only [if_pos hi]
      rw [he]
      cases s.vars.get? (String.ofList (trim line.toList)) <;> rfl
    · have he : s.evaluate (String.ofList (trim line.toList)) = s.evaluate line := by
        rw [evaluate_eq, evaluate_eq, evaluate_trim]
      simp only [if_neg hi]
      rw [he]

/-- A line that is neither blank nor a command nor an assignment is answered alike in both ways. -/
theorem attempt_iff_evaluate (s : Session) (line : String) (hne : trim line.toList ≠ [])
    (hc : (trim line.toList).head? ≠ some '/') (ha : '=' ∉ trim line.toList) :
    (∀ v, (s.step (.attempt line)).1 = .outcome (.print (toString v)) ↔
      (s.step (.evaluate line)).1 = .value v) ∧
    (∀ e, (s.step (.attempt line)).1 = .failure e ↔ (s.step (.evaluate line)).1 = .failure e) ∧
    (s.step (.attempt line)).2.vars = s.vars ∧ (s.step (.evaluate line)).2.vars = s.vars := by
  simp only [step, attempt_eq_map_evaluate s hne hc ha]
  cases s.evaluate line with
  | error e => exact ⟨fun v ↦ ⟨nofun, nofun⟩, fun e' ↦ Iff.rfl, rfl, rfl⟩
  | ok w =>
    refine ⟨fun v ↦ ⟨?_, ?_⟩, fun e ↦ ⟨nofun, nofun⟩, rfl, rfl⟩
    · intro h
      have ht : toString w = toString v := Outcome.print.inj (Answer.outcome.inj h)
      rw [toString_inj ht]
    · intro h
      have hv : w = v := Answer.value.inj h
      rw [hv]
      rfl

theorem attempt_signed_literal :
    (Session.step {} (.attempt " +007 ")).1 = .outcome (.print (toString (7 : Int))) :=
  ((attempt_iff_evaluate {} " +007 " (by decide) (by decide) (by decide)).1 7).2 rfl

end Session

end Calculator
