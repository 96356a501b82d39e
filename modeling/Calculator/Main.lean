import Calculator.CommandLine

namespace Calculator

def Transcript.emit (t : Transcript) : IO UInt32 := do
  t.output.forM IO.println
  t.errors.forM IO.eprintln
  return t.status.toUInt32

def readChunk (input : IO.FS.Stream) : IO (List UInt8) := do
  let mut bytes := #[]
  repeat
    let next ← input.read 1
    bytes := bytes ++ next.data
    if next.isEmpty || next.data.contains Text.newline then break
  return bytes.toList

/-- Carries on an interactive session, so that each answer is there before the next line is read. -/
def Session.listen (s : Session) (input : IO.FS.Stream) : IO UInt32 := do
  let mut session := s
  repeat
    match Text.LineReader.typing.reading (Text.chunks (← readChunk input)) with
    | .line text _ =>
      let t := session.turn text
      t.output.forM IO.println
      t.errors.forM IO.eprintln
      match t.next with
      | none => return 0
      | some next => session := next
    | r => return ← (session.converse r).emit
  return 0

end Calculator

open Calculator

def main (args : List String) : IO UInt32 := do
  match start args with
  | .finished t => t.emit
  | .interactive output s =>
    output.forM IO.println
    s.listen (← IO.getStdin)
