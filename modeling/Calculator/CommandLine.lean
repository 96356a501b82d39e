import Calculator.CommandLine.Options
import Calculator.Session.Report
import Calculator.Text.Reading

namespace Calculator

structure Transcript where
  status : Nat := 0
  output : List String := []
  errors : List String := []
  deriving DecidableEq, Repr

structure Turn where
  output : List String
  errors : List String
  next : Option Session

namespace Session

def turn (s : Session) (line : String) : Turn :=
  let errors := s.trace line ++ s.complaint line
  match s.execute line with
  | (.silent, next) => ⟨[], errors, some next⟩
  | (.print text, next) => ⟨[text], errors, some next⟩
  | (.exit text, _) => ⟨[text], errors, none⟩

/-- An interactive session. The end of its input ends it like a command, a failure without a
farewell. -/
def converse (s : Session) : Text.Reading → Transcript
  | .endOfInput => { output := [farewell] }
  | .failed message => { errors := ["Failed to read the input: " ++ message] }
  | .interrupted rest => s.converse rest
  | .line text rest =>
    let t := s.turn text
    match t.next with
    | none => { output := t.output, errors := t.errors }
    | some s =>
      let r := s.converse rest
      { r with output := t.output ++ r.output, errors := t.errors ++ r.errors }

def once (s : Session) (line : String) : Transcript :=
  match s.attempt line with
  | .ok (.silent, _) => { errors := s.trace line }
  | .ok (.print text, _) | .ok (.exit text, _) => { output := [text], errors := s.trace line }
  | .error e => { status := 1, output := [e.message], errors := s.trace line }

end Session

def greeting : String :=
  "Welcome to the Smart Calculator! Type /help for usage, /exit to quit."

inductive Start
  | finished (t : Transcript)
  | interactive (output : List String) (s : Session)

def start (args : List String) : Start :=
  match Options.ofArguments args with
  | .error e => .finished { status := 2, errors := [e.message, usage] }
  | .ok o =>
    if o.help then .finished { output := [usage] }
    else
      match o.line with
      | some line => .finished (Session.once { verbose := o.verbose } line)
      | none => .interactive (if o.banner then [greeting] else []) { verbose := o.verbose }

def Session.interact (s : Session) : Except String Text.Reading → Transcript
  | .error message => { status := 1, errors := ["Failed to initialize the line editor: " ++ message] }
  | .ok r => s.converse r

/-- The whole run of the program on its arguments and the bytes of its standard input. -/
def runFrom (editor : Text.LineEditor) (args : List String) (input : List UInt8) : Transcript :=
  match start args with
  | .finished t => t
  | .interactive output s =>
    let t := s.interact (editor input)
    { t with output := output ++ t.output }

def runWith (r : Text.LineReader) (args : List String) (input : String) : Transcript :=
  runFrom r.editor args (Text.bytes input)

def run (args : List String) (input : String) : Transcript := runWith .typing args input

theorem runWith_eq (r : Text.LineReader) (args : List String) (input : String) :
    runWith r args input =
      match start args with
      | .finished t => t
      | .interactive output s =>
        let t := s.converse (.ofLines (r.read input))
        { t with output := output ++ t.output } := by
  rw [runWith, runFrom, Text.LineReader.editor, r.reading_bytes]
  rfl

end Calculator
