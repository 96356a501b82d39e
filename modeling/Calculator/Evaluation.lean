import Calculator.Failure
import Calculator.Postfix

namespace Calculator

structure Evaluation where
  shown : List String
  result : Except Failure Int

def report (verbose : Bool) (text : String) : List String := if verbose then [text] else []

/-- The stages behind the scanner. Each form of the expression is shown as soon as there is one. -/
def Evaluation.ofTokens (vars : Variables) (verbose : Bool) :
    Except LexError (List Token) → Evaluation
  | .error e => ⟨[], .error e.failure⟩
  | .ok ts =>
    let tokens := report verbose ("Tokens: " ++ dumpTokens ts)
    match toPostfix vars ts with
    | .error e => ⟨tokens, .error e.failure⟩
    | .ok ps =>
      ⟨tokens ++ report verbose ("RPN: " ++ dumpTokens ps),
        (Postfix.value vars ps).mapError EvalError.failure⟩

def evaluate (vars : Variables) (line : String) : Except Failure Int :=
  (Evaluation.ofTokens vars false (tokenize line)).result

namespace Evaluation

variable {vars : Variables}

/-- What is shown has no part in the result. -/
theorem result_ofTokens (verbose : Bool) (scanned : Except LexError (List Token)) :
    (ofTokens vars verbose scanned).result =
      scanned.mapError LexError.failure >>= fun ts ↦
        (toPostfix vars ts).mapError YardError.failure >>= fun ps ↦
          (Postfix.value vars ps).mapError EvalError.failure := by
  cases scanned with
  | error e => rfl
  | ok ts =>
    change _ = (toPostfix vars ts).mapError YardError.failure >>= _
    rw [ofTokens]
    cases toPostfix vars ts <;> rfl

end Evaluation

theorem evaluate_eq (vars : Variables) (line : String) :
    evaluate vars line =
      (tokenize line).mapError LexError.failure >>= fun ts ↦
        (toPostfix vars ts).mapError YardError.failure >>= fun ps ↦
          (Postfix.value vars ps).mapError EvalError.failure :=
  Evaluation.result_ofTokens false _

end Calculator
