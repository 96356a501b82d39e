import Calculator.Proofs.Grammar.Recovered
import Calculator.Proofs.Postfix.Faults
import Calculator.Proofs.Session.Replay
import Calculator.Proofs.Yard.Conservation

namespace Calculator

def Variables.Within (vars vars' : Variables) : Prop :=
  ∀ name, vars.contains name = true → vars'.contains name = true

theorem Token.Executable.mono {vars vars' : Variables} {t : Token} (h : t.Executable vars)
    (hv : vars.Within vars') : t.Executable vars' := by
  cases t with
  | var name => exact hv name h
  | num | word | unary | binary | lparen | rparen => exact h

theorem Session.within_run (s : Session) (xs : List Session.Step) :
    s.vars.Within (s.run xs).2.vars := by
  induction xs generalizing s with
  | nil => exact fun _ h ↦ h
  | cons x xs ih =>
    intro name h
    exact ih (s.step x).2 name (s.contains_step x h)

theorem executable_of_toPostfix {vars : Variables} {line : String} {ts ps : List Token}
    (ht : tokenize line = .ok ts) (hp : toPostfix vars ts = .ok ps) :
    ∀ t ∈ ps, t.Executable vars := by
  intro t hps
  obtain ⟨hts, hparen⟩ := mem_of_toPostfix hp hps
  obtain ⟨hword, hvar⟩ := admitted_of_toPostfix hp hts
  cases t with
  | num | binary => trivial
  | var name => exact hvar name rfl
  | word text => exact hword text rfl
  | unary op => exact (Lexeme.written_of_tokenize ht).additive hts
  | lparen | rparen => cases hparen

/-- Behind the yard the stack machine never misses a name and never meets a token it has no use for,
also where more names are defined by then, as after any further lines of a session. What is left are
operands that are missing or left over, zero divisors and exponents. -/
theorem value_toPostfix_faults (vars : Variables) (line : String) (ts ps : List Token)
    (ht : tokenize line = .ok ts) (hp : toPostfix vars ts = .ok ps) :
    (∀ vars' : Variables, vars.Within vars' →
      (∀ name, Postfix.value vars' ps ≠ .error (.unknownVariable name)) ∧
      (∀ t ∈ ps, t.Executable vars') ∧
      ∀ e, Postfix.value vars' ps = .error e ↔
        (∃ us t vs stack, ps = us ++ t :: vs ∧ Postfix.run vars' [] us = .ok stack ∧
          Postfix.Fault stack t e) ∨
        ∃ stack, Postfix.run vars' [] ps = .ok stack ∧ stack.length ≠ 1 ∧ e = .malformed) ∧
    vars.Within vars ∧
    ∀ (verbose : Bool) (xs : List Session.Step),
      vars.Within (Session.run ⟨vars, verbose⟩ xs).2.vars := by
  refine ⟨?_, fun _ h ↦ h, ?_⟩
  · intro vars' hv
    have he : ∀ t ∈ ps, t.Executable vars' := by
      intro t hps
      exact (executable_of_toPostfix ht hp t hps).mono hv
    exact ⟨Postfix.value_ne_unknownVariable he, he, fun e ↦ Postfix.value_eq_error_iff he⟩
  · intro verbose xs
    exact Session.within_run ⟨vars, verbose⟩ xs

theorem value_behind_assignments :
    (∀ name,
      Postfix.value
        (Session.run ⟨Variables.ofList [("x", 1)], false⟩
          [.execute "y = x", .execute "x = 0"]).2.vars
        [.num 2, .var "x", .binary .div] ≠ .error (.unknownVariable name)) ∧
      Postfix.value
        (Session.run ⟨Variables.ofList [("x", 1)], false⟩
          [.execute "y = x", .execute "x = 0"]).2.vars
        [.num 2, .var "x", .binary .div] = .error .divisionByZero := by
  have h := value_toPostfix_faults (Variables.ofList [("x", 1)]) "2 / x"
    [.num 2, .binary .div, .var "x"] [.num 2, .var "x", .binary .div] rfl rfl
  exact ⟨(h.1 _ (h.2.2 false _)).1, rfl⟩

end Calculator
