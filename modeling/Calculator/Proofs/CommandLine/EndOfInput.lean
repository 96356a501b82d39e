import Calculator.CommandLine
import Calculator.Proofs.Fallible
import Calculator.Session.Run

namespace Calculator

open Text

def isExit (line : String) : Bool := trim line.toList == "/exit".toList

def Session.Answer.printed : Session.Answer → List String
  | .outcome (.print text) | .outcome (.exit text) => [text]
  | .outcome .silent | .value _ | .failure _ => []

variable {line : String}

theorem Command.ofName_eq_exit {name : String} (h : ofName name = .exit) : name = "exit" := by
  unfold ofName at h
  split at h
  · next he => exact he
  · split at h
    · cases h
    · split at h <;> cases h

theorem Request.ofLine_eq_exit_iff : ofLine line = .command .exit ↔ isExit line = true := by
  rw [isExit, beq_iff_eq]
  constructor
  · intro h
    unfold ofLine at h
    split at h
    · cases h
    · next name ht =>
      have hn := Command.ofName_eq_exit (Request.command.inj h)
      rw [ht, ← String.toList_ofList (l := name), hn]
      rfl
    · exact absurd h (ofText_ne_command _ _)
  · intro h
    rw [ofLine, h]
    rfl

namespace Session

theorem command_eq_exit {s : Session} {c : Command} {text : String} (h : s.command c = .exit text) :
    c = .exit := by
  cases c <;> first | rfl | cases h

theorem ofLine_of_attempt_eq_exit {s s' : Session} {text : String}
    (h : s.attempt line = .ok (.exit text, s')) : Request.ofLine line = .command .exit := by
  rw [attempt_eq] at h
  split at h
  · cases h
  · next c hr =>
    have hc : s.command c = .exit text := congrArg Prod.fst (Except.ok.inj h)
    rw [hr, command_eq_exit hc]
  · obtain ⟨vars, _, hv⟩ := map_eq_ok_iff.1 h
    cases hv
  · cases h
  · split at h <;> cases h
  · obtain ⟨v, _, hv⟩ := map_eq_ok_iff.1 h
    cases hv

theorem turn_of_exit (s : Session) (h : isExit line = true) :
    s.turn line = ⟨[farewell], [], none⟩ := by
  have hr := Request.ofLine_eq_exit_iff.2 h
  simp [turn, trace, complaint, execute, attempt, reply, hr, command]

theorem turn_of_not_exit (s : Session) (h : isExit line = false) :
    s.turn line = ⟨(s.step (.execute line)).1.printed, s.trace line ++ s.complaint line,
      some (s.step (.execute line)).2⟩ := by
  cases ha : s.attempt line with
  | error e => simp [turn, step, execute, ha, Answer.printed]
  | ok r =>
    obtain ⟨o, s'⟩ := r
    cases o with
    | silent | print text => simp [turn, step, execute, ha, Answer.printed]
    | exit text =>
      rw [Request.ofLine_eq_exit_iff.1 (ofLine_of_attempt_eq_exit ha)] at h
      cases h

theorem converse_of_exit (s : Session) (h : isExit line = true) (r : Reading) :
    s.converse (.line line r) = { output := [farewell] } := by
  rw [converse, s.turn_of_exit h]

theorem converse_of_not_exit (s : Session) (h : isExit line = false) (r : Reading) :
    s.converse (.line line r) =
      { status := ((s.step (.execute line)).2.converse r).status
        output := (s.step (.execute line)).1.printed ++
          ((s.step (.execute line)).2.converse r).output
        errors := s.trace line ++ s.complaint line ++
          ((s.step (.execute line)).2.converse r).errors } := by
  rw [converse, s.turn_of_not_exit h]

theorem converse_append_exit (s : Session) (h : isExit line = true) (ls ms : List String) :
    s.converse (.ofLines (ls ++ line :: ms)) = s.converse (.ofLines ls) := by
  induction ls generalizing s with
  | nil => exact s.converse_of_exit h _
  | cons l ls ih =>
    rw [List.cons_append, Reading.ofLines_cons, Reading.ofLines_cons]
    cases hl : isExit l with
    | true => rw [s.converse_of_exit hl, s.converse_of_exit hl]
    | false => rw [s.converse_of_not_exit hl, s.converse_of_not_exit hl, ih]

/-- A session prints what comes of its lines, one after the other, up to the first that ends it. -/
theorem converse_eq (s : Session) (ls : List String) :
    (s.converse (.ofLines ls)).status = 0 ∧
    (s.converse (.ofLines ls)).output =
      (s.run ((ls.takeWhile fun line ↦ !isExit line).map .execute)).1.flatMap Answer.printed ++
        [farewell] := by
  induction ls generalizing s with
  | nil => exact ⟨rfl, rfl⟩
  | cons l ls ih =>
    rw [Reading.ofLines_cons]
    cases hl : isExit l with
    | true =>
      rw [s.converse_of_exit hl, List.takeWhile_cons_of_neg (by simp [hl])]
      exact ⟨rfl, rfl⟩
    | false =>
      obtain ⟨hs, ho⟩ := ih (s.step (.execute l)).2
      rw [s.converse_of_not_exit hl, List.takeWhile_cons_of_pos (by simp [hl])]
      refine ⟨hs, ?_⟩
      simp only [ho, List.map_cons, run, List.flatMap_cons, List.append_assoc]

end Session

theorem read_exit (r : LineReader) (input : String) :
    r.read ("/exit\n" ++ input) = "/exit" :: r.read input := by
  have hl : lines "/exit\n".toList = ["/exit".toList] := rfl
  have he : r.edit "/exit".toList = "/exit".toList := r.edit_of_notMem _ (by decide)
  have hr : r.read "/exit\n" = ["/exit"] := by
    rw [LineReader.read, hl, List.map_singleton, he, String.ofList_toList]
  have ha : r.read ("/exit\n" ++ input) = r.read "/exit\n" ++ r.read input :=
    r.read_append (.inr ⟨"/exit", rfl⟩) input
  rw [ha, hr, List.singleton_append]

/-- The end of the input is as good as a line that ends the session, and what follows such a line is
not read. -/
theorem runWith_exit (r : LineReader) (args : List String) (s₁ s₂ : String)
    (h : s₁ = "" ∨ ∃ t, s₁ = t ++ "\n") :
    runWith r args (s₁ ++ "/exit\n" ++ s₂) = runWith r args s₁ ∧
    ∀ o, Options.ofArguments args = .ok o → o.help = false → o.line = none →
      (runWith r args s₁).status = 0 ∧
      (runWith r args s₁).output =
        (if o.banner then [greeting] else []) ++
          (Session.run { verbose := o.verbose }
            (((r.read s₁).takeWhile fun line ↦ !isExit line).map .execute)).1.flatMap
              Session.Answer.printed ++ ["Bye!"] := by
  have hread : r.read (s₁ ++ "/exit\n" ++ s₂) = r.read s₁ ++ "/exit" :: r.read s₂ := by
    rw [String.append_assoc, r.read_append h, read_exit]
  constructor
  · rw [runWith_eq, runWith_eq]
    cases start args with
    | finished t => rfl
    | interactive output s =>
      have hexit : isExit "/exit" = true := rfl
      simp only [hread, s.converse_append_exit hexit]
  · intro o ho hh hl
    obtain ⟨hstatus, houtput⟩ := Session.converse_eq { verbose := o.verbose } (r.read s₁)
    have hs : start args =
        .interactive (if o.banner then [greeting] else []) { verbose := o.verbose } := by
      simp [start, ho, hh, hl]
    simp only [runWith_eq, hs, hstatus, houtput, List.append_assoc, true_and]
    rfl

theorem run_before_exit :
    run ["-v"] ("a = 6\r\na + b\n a*7\n" ++ "/exit\n" ++ "a = ") =
        run ["-v"] "a = 6\r\na + b\n a*7\n" ∧
      (run ["-v"] "a = 6\r\na + b\n a*7\n").output =
        [greeting, "Unknown variable", "42", "Bye!"] := by
  have h := runWith_exit .typing ["-v"] "a = 6\r\na + b\n a*7\n" "a = "
    (.inr ⟨"a = 6\r\na + b\n a*7", rfl⟩)
  exact ⟨h.1, (h.2 { verbose := true } rfl rfl rfl).2.trans (by decide +kernel)⟩

end Calculator
