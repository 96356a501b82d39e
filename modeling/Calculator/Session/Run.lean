import Calculator.Session

namespace Calculator.Session

/-- The three ways to hand a line to a session: failures shown, failures handed back, or the line
read as an expression whatever it looks like. -/
inductive Step
  | execute (line : String)
  | attempt (line : String)
  | evaluate (line : String)
  deriving DecidableEq, Repr

inductive Answer
  | outcome (o : Outcome)
  | value (v : Int)
  | failure (e : Failure)
  deriving DecidableEq, Repr

def step (s : Session) : Step → Answer × Session
  | .execute line =>
    let r := s.execute line
    (.outcome r.1, r.2)
  | .attempt line =>
    match s.attempt line with
    | .ok r => (.outcome r.1, r.2)
    | .error e => (.failure e, s)
  | .evaluate line =>
    match s.evaluate line with
    | .ok v => (.value v, s)
    | .error e => (.failure e, s)

def run (s : Session) : List Step → List Answer × Session
  | [] => ([], s)
  | x :: xs =>
    let first := s.step x
    let rest := first.2.run xs
    (first.1 :: rest.1, rest.2)

end Calculator.Session
