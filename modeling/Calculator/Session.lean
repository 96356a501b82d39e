import Calculator.Evaluation
import Calculator.Session.Request

namespace Calculator

/-- What becomes of a line: nothing to show, a text to show, or a last text before the end. -/
inductive Outcome
  | silent
  | print (text : String)
  | exit (text : String)
  deriving DecidableEq, Repr

structure Session where
  vars : Variables := ∅
  verbose : Bool := false
  deriving DecidableEq

structure Reply where
  shown : List String
  result : Except Failure (Outcome × Session)

def helpText : String :=
  String.intercalate "\n"
    ["The program evaluates integer expressions of any size.",
      "Operators: + - * / ^ and parentheses. Division truncates toward zero.",
      "Runs of signs collapse: 2 -- 3 is 2 + 3, 2 --- 3 is 2 - 3.",
      "Assign variables with `name = 42` or `name = other`; names are Latin letters.",
      "Type a variable name to print its value.",
      "Commands: /help, /vars, /exit"]

def farewell : String := "Bye!"

def Variables.listing (vars : Variables) : String :=
  String.intercalate "\n" (vars.bindings.map fun b ↦ b.1 ++ " = " ++ toString b.2)

namespace Session

def command (s : Session) : Command → Outcome
  | .exit => .exit farewell
  | .help => .print helpText
  | .vars => .print (if s.vars.isEmpty then "No variables defined" else s.vars.listing)
  | .unknown => .print "Unknown command"

def evaluation (s : Session) (line : String) : Evaluation :=
  .ofTokens s.vars s.verbose (tokenize line)

def evaluate (s : Session) (line : String) : Except Failure Int := (s.evaluation line).result

def reply (s : Session) (line : String) : Reply :=
  match Request.ofLine line with
  | .blank => ⟨[], .ok (.silent, s)⟩
  | .command c => ⟨[], .ok (s.command c, s)⟩
  | .assignment text =>
    ⟨[], ((s.vars.assign text).mapError AssignmentError.failure).map fun vars ↦
      (.silent, { s with vars := vars })⟩
  | .literal n => ⟨[], .ok (.print (toString n), s)⟩
  | .query name =>
    match s.vars.get? name with
    | some v => ⟨[], .ok (.print (toString v), s)⟩
    | none => ⟨[], .error (.unknownVariable name)⟩
  | .expression text =>
    let e := s.evaluation text
    ⟨e.shown, e.result.map fun v ↦ (.print (toString v), s)⟩

def attempt (s : Session) (line : String) : Except Failure (Outcome × Session) :=
  (s.reply line).result

def trace (s : Session) (line : String) : List String := (s.reply line).shown

theorem evaluate_eq (s : Session) (line : String) :
    s.evaluate line = Calculator.evaluate s.vars line := by
  rw [Calculator.evaluate_eq]
  exact Evaluation.result_ofTokens s.verbose _

theorem attempt_eq (s : Session) (line : String) :
    s.attempt line =
      match Request.ofLine line with
      | .blank => .ok (.silent, s)
      | .command c => .ok (s.command c, s)
      | .assignment text =>
        ((s.vars.assign text).mapError AssignmentError.failure).map fun vars ↦
          (.silent, { s with vars := vars })
      | .literal n => .ok (.print (toString n), s)
      | .query name =>
        match s.vars.get? name with
        | some v => .ok (.print (toString v), s)
        | none => .error (.unknownVariable name)
      | .expression text => (s.evaluate text).map fun v ↦ (.print (toString v), s) := by
  unfold attempt reply
  cases Request.ofLine line with
  | query name => cases hv : s.vars.get? name <;> simp only [hv]
  | blank | command | assignment | literal | expression => rfl

def execute (s : Session) (line : String) : Outcome × Session :=
  match s.attempt line with
  | .ok r => r
  | .error e => (.print e.message, s)

end Session

end Calculator
