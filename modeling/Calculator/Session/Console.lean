import Calculator.Session.Run
import Calculator.Token.Scanner

namespace Calculator

/-- A session together with the one scanner that reads all its expressions. -/
structure Console where
  session : Session := {}
  scanner : Scanner := {}
  deriving DecidableEq

namespace Console

/-- Evaluates a line. The scanner stays where it has stopped, be it in the middle of the line. -/
def evaluate (c : Console) (line : String) : Except Failure Int × Console :=
  let r := c.scanner.tokenize line
  ((Evaluation.ofTokens c.session.vars c.session.verbose r.1).result, { c with scanner := r.2 })

def attempt (c : Console) (line : String) : Except Failure Outcome × Console :=
  match Request.ofLine line with
  | .expression text =>
    let r := c.evaluate text
    (r.1.map fun v ↦ .print (toString v), r.2)
  | .blank | .command _ | .assignment _ | .literal _ | .query _ =>
    match c.session.attempt line with
    | .ok (o, s) => (.ok o, { c with session := s })
    | .error e => (.error e, c)

def execute (c : Console) (line : String) : Outcome × Console :=
  match c.attempt line with
  | (.ok o, c) => (o, c)
  | (.error e, c) => (.print e.message, c)

def step (c : Console) : Session.Step → Session.Answer × Console
  | .execute line =>
    let r := c.execute line
    (.outcome r.1, r.2)
  | .attempt line =>
    match c.attempt line with
    | (.ok o, c) => (.outcome o, c)
    | (.error e, c) => (.failure e, c)
  | .evaluate line =>
    match c.evaluate line with
    | (.ok v, c) => (.value v, c)
    | (.error e, c) => (.failure e, c)

def run (c : Console) : List Session.Step → List Session.Answer × Console
  | [] => ([], c)
  | x :: xs =>
    let first := c.step x
    let rest := first.2.run xs
    (first.1 :: rest.1, rest.2)

end Console

end Calculator
