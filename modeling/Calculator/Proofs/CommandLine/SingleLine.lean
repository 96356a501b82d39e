import Calculator.Proofs.CommandLine.EndOfInput

namespace Calculator

open Text

variable {line line' : String}

theorem Request.ofLine_congr (h : trim line.toList = trim line'.toList) :
    ofLine line = ofLine line' := by
  unfold ofLine
  rw [h]

theorem isExit_congr (h : trim line.toList = trim line'.toList) : isExit line = isExit line' := by
  unfold isExit
  rw [h]

namespace Session

theorem once_congr (s : Session) (h : trim line.toList = trim line'.toList) :
    s.once line = s.once line' := by
  unfold once attempt trace reply
  rw [Request.ofLine_congr h]

theorem once_of_error {s : Session} {e : Failure} (h : s.attempt line = .error e) :
    s.once line = { status := 1, output := [e.message], errors := s.trace line } := by
  rw [once, h]

theorem status_once_of_ok {s : Session} {r : Outcome × Session} (h : s.attempt line = .ok r) :
    (s.once line).status = 0 := by
  obtain ⟨o, s'⟩ := r
  unfold once
  rw [h]
  cases o <;> rfl

theorem status_once (s : Session) (line : String) :
    ((s.once line).status = 0 ∨ (s.once line).status = 1) ∧
    ((s.once line).status = 1 ↔ ∃ e, s.attempt line = .error e) := by
  cases h : s.attempt line with
  | error e => simp [once_of_error h]
  | ok r => simp [status_once_of_ok h]

theorem output_once (s : Session) (line : String) :
    (s.once line).output = (s.step (.execute line)).1.printed := by
  cases h : s.attempt line with
  | error e => simp [once, step, execute, h, Answer.printed]
  | ok r =>
    obtain ⟨o, s'⟩ := r
    cases o <;> simp [once, step, execute, h, Answer.printed]

/-- A session on a single line prints what that line by itself does, and takes its leave. -/
theorem output_converse_singleton (s : Session) (line : String) :
    (s.converse (.ofLines [line])).output =
      (s.once line).output ++ if isExit line then [] else [farewell] := by
  rw [output_once]
  cases h : isExit line with
  | true =>
    have hr := Request.ofLine_eq_exit_iff.2 h
    have hp : (s.step (.execute line)).1.printed = [farewell] := by
      simp [step, execute, attempt, reply, hr, command, Answer.printed]
    rw [Reading.ofLines_cons, s.converse_of_exit h, hp]
    rfl
  | false =>
    rw [Reading.ofLines_cons, s.converse_of_not_exit h]
    rfl

end Session

theorem start_line (line : String) : start ["--", line] = .finished (Session.once {} line) := rfl

theorem start_plain : start ["--no-banner"] = .interactive [] {} := rfl

/-- What a reader hands out for a line may lack a carriage return at its end, and that is blank. -/
theorem exists_read_line (r : LineReader) (hn : '\n' ∉ line.toList)
    (hr : ∀ cs ∈ lines (line.toList ++ ['\n']), r.edit cs = cs) :
    ∃ body, r.read (line ++ "\n") = [body] ∧ trim body.toList = trim line.toList := by
  obtain ⟨body, hl, hbody⟩ := lines_newline hn
  have ht : (line ++ "\n").toList = line.toList ++ ['\n'] := String.toList_append
  have he : r.edit body = body := hr body (hl ▸ List.mem_cons_self)
  refine ⟨String.ofList body, ?_, ?_⟩
  · rw [LineReader.read, ht, hl, List.map_singleton, he]
  · rw [String.toList_ofList]
    rcases hbody with h | h
    · rw [h]
    · rw [h, trim_append_blanks body (List.forall_mem_singleton.2 rfl)]

/-- A line is answered alike in a session of its own and as an argument behind `--`, where it is
never anything but a line. -/
theorem runWith_line (r : LineReader) (line : String) (hn : '\n' ∉ line.toList)
    (hr : ∀ cs ∈ lines (line.toList ++ ['\n']), r.edit cs = cs) (input : String) :
    (runWith r ["--no-banner"] (line ++ "\n")).output =
      (runWith r ["--", line] input).output ++ (if isExit line then [] else ["Bye!"]) ∧
    ((runWith r ["--", line] input).status = 0 ∨ (runWith r ["--", line] input).status = 1) ∧
    ((runWith r ["--", line] input).status = 1 ↔ ∃ e, Session.attempt {} line = .error e) ∧
    (∀ e, Session.attempt {} line = .error e →
      (runWith r ["--", line] input).output = [e.message]) ∧
    Options.ofArguments ["--", line] = .ok { line := some line } := by
  have hone : runWith r ["--", line] input = Session.once {} line := by
    rw [runWith_eq, start_line]
  have hboth : (runWith r ["--no-banner"] (line ++ "\n")).output =
      (Session.once {} line).output ++ if isExit line then [] else [farewell] := by
    obtain ⟨body, hread, htrim⟩ := exists_read_line r hn hr
    rw [← Session.once_congr {} htrim, ← isExit_congr htrim, runWith_eq, start_plain, hread]
    exact Session.output_converse_singleton {} body
  rw [hone]
  obtain ⟨hstatus, hfails⟩ := Session.status_once {} line
  refine ⟨hboth, hstatus, hfails, fun e he ↦ ?_, rfl⟩
  rw [Session.once_of_error he]

/-- Behind `--`, what looks like an option is a name with two signs in front. -/
theorem run_line_like_option :
    (run ["--no-banner"] "--help\r\n").output = ["Unknown variable", "Bye!"] ∧
      (run ["--", "--help\r"] "").status = 1 := by
  have h := runWith_line .typing "--help\r" (by decide) (by decide +kernel) ""
  have hs : (run ["--", "--help\r"] "").status = 1 := h.2.2.1.2 ⟨.unknownVariable "help", rfl⟩
  exact ⟨h.1.trans (by decide), hs⟩

end Calculator
