import Calculator.Proofs.CommandLine.Arguments
import Mathlib.Data.List.Induction

namespace Calculator.Options

def FlagLike (arg : String) : Prop :=
  ∃ c cs, arg.toList = '-' :: c :: cs ∧ (c = '-' ∨ c.isAlpha = true)

theorem isFlag_iff {arg : String} : isFlag arg = true ↔ FlagLike arg := by
  unfold isFlag FlagLike
  split
  · next c cs h =>
    rw [h]
    simp
  · next h => simpa using fun c cs hc ↦ absurd hc (h c cs)

instance (arg : String) : Decidable (FlagLike arg) := decidable_of_iff _ isFlag_iff

inductive Argument
  | flag (arg : String)
  | positional (arg : String)
  deriving DecidableEq, Repr

def Argument.ofString (arg : String) : Argument :=
  if FlagLike arg then .flag arg else .positional arg

def Argument.positional? : Argument → Option String
  | flag _ => none
  | positional arg => some arg

def rest (args : List String) : List String := args.dropWhile fun arg ↦ arg != "--"

/-- The arguments in their order without the first `--`, behind which all of them are positional. -/
def parts (args : List String) : List Argument :=
  (front args).map .ofString ++ (rest args).tail.map .positional

def positionals (xs : List Argument) : List String := xs.filterMap Argument.positional?

def knownFlags : List String := ["-v", "--verbose", "--no-banner", "-h", "--help"]

structure Accepted (xs : List Argument) : Prop where
  flags : ∀ arg, .flag arg ∈ xs → arg ∈ knownFlags
  line : (positionals xs).length ≤ 1

inductive Faulty (before : List Argument) : Argument → OptionError → Prop
  | flag {arg : String} : arg ∉ knownFlags → Faulty before (.flag arg) (.unknownFlag arg)
  | positional {arg : String} :
      positionals before ≠ [] → Faulty before (.positional arg) (.unexpectedArgument arg)

def summary (xs : List Argument) : Options where
  verbose := decide (.flag "-v" ∈ xs ∨ .flag "--verbose" ∈ xs)
  banner := decide (.flag "--no-banner" ∉ xs)
  help := decide (.flag "-h" ∈ xs ∨ .flag "--help" ∈ xs)
  line := (positionals xs).head?

def take (o : Options) : Argument → Except OptionError Options
  | .flag arg => o.flag arg
  | .positional arg => o.operand arg

variable {xs ys : List Argument} {x : Argument} {o : Options} {e : OptionError}
  {arg : String} {args opts : List String}

theorem argument_eq_take (o : Options) (arg : String) :
    o.argument arg = o.take (.ofString arg) := by
  unfold argument Argument.ofString
  simp only [isFlag_iff]
  split <;> rfl

theorem parts_cons (h : arg ≠ "--") (args : List String) :
    parts (arg :: args) = .ofString arg :: parts args := by
  have hr : rest (arg :: args) = rest args := List.dropWhile_cons_of_pos (by simpa using h)
  rw [parts, front_cons h, hr]
  rfl

theorem read_eq_foldlM (o : Options) (args : List String) :
    o.read args = (parts args).foldlM take o := by
  induction args generalizing o with
  | nil => rfl
  | cons arg args ih =>
    by_cases h : arg = "--"
    · subst h
      have hp : parts ("--" :: args) = args.map .positional := rfl
      rw [read, if_pos rfl, hp, List.foldlM_map]
      rfl
    · rw [read_cons h, parts_cons h, List.foldlM_cons, argument_eq_take]
      simp only [ih]

theorem positionals_append (xs ys : List Argument) :
    positionals (xs ++ ys) = positionals xs ++ positionals ys := List.filterMap_append

theorem flag_summary (xs : List Argument) (h : arg ∈ knownFlags) :
    (summary xs).flag arg = .ok (summary (xs ++ [.flag arg])) := by
  simp only [knownFlags, List.mem_cons, List.not_mem_nil, or_false] at h
  rcases h with rfl | rfl | rfl | rfl | rfl
  all_goals simp [flag, summary, positionals, Argument.positional?]

theorem flag_of_unknown (o : Options) (h : arg ∉ knownFlags) :
    o.flag arg = .error (.unknownFlag arg) := by
  simp only [knownFlags, List.mem_cons, List.not_mem_nil, or_false, not_or] at h
  obtain ⟨h₁, h₂, h₃, h₄, h₅⟩ := h
  rw [flag, if_neg (not_or.2 ⟨h₁, h₂⟩), if_neg h₃, if_neg (not_or.2 ⟨h₄, h₅⟩)]

theorem operand_summary (arg : String) (h : positionals xs = []) :
    (summary xs).operand arg = .ok (summary (xs ++ [.positional arg])) := by
  have hl : positionals (xs ++ [.positional arg]) = [arg] := by
    rw [positionals_append, h]
    rfl
  simp [operand, summary, h, hl]

theorem operand_of_line (arg : String) (h : positionals xs ≠ []) :
    (summary xs).operand arg = .error (.unexpectedArgument arg) := by
  obtain ⟨other, others, hl⟩ := List.exists_cons_of_ne_nil h
  simp [operand, summary, hl]

theorem Accepted.of_append (h : Accepted (xs ++ ys)) : Accepted xs := by
  obtain ⟨hf, hl⟩ := h
  rw [positionals_append, List.length_append] at hl
  exact ⟨fun arg ha ↦ hf arg (List.mem_append_left ys ha), by omega⟩

theorem accepted_append_flag :
    Accepted (xs ++ [.flag arg]) ↔ Accepted xs ∧ arg ∈ knownFlags := by
  constructor
  · intro h
    exact ⟨h.of_append, h.flags arg (List.mem_append_right xs List.mem_cons_self)⟩
  · rintro ⟨h, harg⟩
    refine ⟨fun other ho ↦ ?_, ?_⟩
    · rcases List.mem_append.1 ho with ho | ho
      · exact h.flags other ho
      · cases List.mem_singleton.1 ho
        exact harg
    · rw [positionals_append, List.length_append]
      exact h.line

theorem accepted_append_positional :
    Accepted (xs ++ [.positional arg]) ↔ Accepted xs ∧ positionals xs = [] := by
  have hlen : (positionals (xs ++ [.positional arg])).length = (positionals xs).length + 1 := by
    rw [positionals_append, List.length_append]
    rfl
  constructor
  · intro h
    have hl := h.line
    rw [hlen] at hl
    exact ⟨h.of_append, List.eq_nil_of_length_eq_zero (by omega)⟩
  · rintro ⟨h, hn⟩
    refine ⟨fun other ho ↦ ?_, ?_⟩
    · rcases List.mem_append.1 ho with ho | ho
      · exact h.flags other ho
      · cases List.mem_singleton.1 ho
    · rw [hlen, hn]
      exact Nat.le_refl 1

theorem not_faulty_flag_iff : (∀ e, ¬ Faulty xs (.flag arg) e) ↔ arg ∈ knownFlags := by
  constructor
  · intro h
    by_contra hn
    exact h _ (.flag hn)
  · intro h e he
    cases he with
    | flag hn => exact hn h

theorem not_faulty_positional_iff :
    (∀ e, ¬ Faulty xs (.positional arg) e) ↔ positionals xs = [] := by
  constructor
  · intro h
    by_contra hn
    exact h _ (.positional hn)
  · intro h e he
    cases he with
    | positional hn => exact hn h

theorem accepted_append_iff :
    Accepted (xs ++ [x]) ↔ Accepted xs ∧ ∀ e, ¬ Faulty xs x e := by
  cases x with
  | flag arg => rw [accepted_append_flag, not_faulty_flag_iff]
  | positional arg => rw [accepted_append_positional, not_faulty_positional_iff]

theorem take_of_faulty (h : Faulty xs x e) : (summary xs).take x = .error e := by
  cases h with
  | flag h => exact flag_of_unknown _ h
  | positional h => exact operand_of_line _ h

theorem take_of_not_faulty (h : ∀ e, ¬ Faulty xs x e) :
    (summary xs).take x = .ok (summary (xs ++ [x])) := by
  cases x with
  | flag arg => exact flag_summary xs (not_faulty_flag_iff.1 h)
  | positional arg => exact operand_summary arg (not_faulty_positional_iff.1 h)

theorem take_summary_eq_error_iff : (summary xs).take x = .error e ↔ Faulty xs x e := by
  refine ⟨fun h ↦ ?_, take_of_faulty⟩
  by_cases hf : ∃ e', Faulty xs x e'
  · obtain ⟨e', he⟩ := hf
    rw [take_of_faulty he] at h
    cases h
    exact he
  · rw [take_of_not_faulty (not_exists.1 hf)] at h
    cases h

theorem take_summary_eq_ok_iff :
    (summary xs).take x = .ok o ↔ (∀ e, ¬ Faulty xs x e) ∧ o = summary (xs ++ [x]) := by
  constructor
  · intro h
    have hok : ∀ e, ¬ Faulty xs x e := by
      intro e he
      rw [take_of_faulty he] at h
      cases h
    rw [take_of_not_faulty hok] at h
    exact ⟨hok, (Except.ok.inj h).symm⟩
  · rintro ⟨h, rfl⟩
    exact take_of_not_faulty h

/-- The options in hand are at any point the summary of the arguments read so far. -/
theorem foldlM_take_eq_ok_iff : xs.foldlM take {} = .ok o ↔ Accepted xs ∧ o = summary xs := by
  -- From the right: whether an argument is a second line depends on what stands in front of it.
  induction xs using List.reverseRecOn generalizing o with
  | nil =>
    have ha : Accepted [] := ⟨nofun, Nat.zero_le 1⟩
    change Except.ok {} = .ok o ↔ Accepted [] ∧ o = {}
    simp [ha, eq_comm]
  | append_singleton xs x ih =>
    rw [List.foldlM_append, bind_eq_ok_iff, accepted_append_iff, and_assoc,
      ← take_summary_eq_ok_iff]
    simp only [ih, List.foldlM_cons, List.foldlM_nil, bind_pure]
    constructor
    · rintro ⟨_, ⟨ha, rfl⟩, ht⟩
      exact ⟨ha, ht⟩
    · rintro ⟨ha, ht⟩
      exact ⟨_, ⟨ha, rfl⟩, ht⟩

theorem ofArguments_eq_ok_iff :
    ofArguments args = .ok o ↔ Accepted (parts args) ∧ o = summary (parts args) := by
  rw [ofArguments, read_eq_foldlM, foldlM_take_eq_ok_iff]

theorem ofArguments_eq_error_iff :
    ofArguments args = .error e ↔
      ∃ xs x ys, parts args = xs ++ x :: ys ∧ Accepted xs ∧ Faulty xs x e := by
  rw [ofArguments, read_eq_foldlM, foldlM_eq_error_iff]
  simp only [foldlM_take_eq_ok_iff]
  constructor
  · rintro ⟨xs, x, ys, _, hp, ⟨ha, rfl⟩, hx⟩
    exact ⟨xs, x, ys, hp, ha, take_summary_eq_error_iff.1 hx⟩
  · rintro ⟨xs, x, ys, hp, ha, hx⟩
    exact ⟨xs, x, ys, _, hp, ⟨ha, rfl⟩, take_summary_eq_error_iff.2 hx⟩

/-- Of the flags it counts only which there are. -/
theorem ofArguments_congr {args' : List String} (h : ofArguments args = .ok o)
    (hf : ∀ arg, .flag arg ∈ parts args' ↔ .flag arg ∈ parts args)
    (hp : positionals (parts args') = positionals (parts args)) : ofArguments args' = .ok o := by
  obtain ⟨⟨hk, hl⟩, rfl⟩ := ofArguments_eq_ok_iff.1 h
  refine ofArguments_eq_ok_iff.2 ⟨⟨fun arg ha ↦ hk arg ((hf arg).1 ha), ?_⟩, ?_⟩
  · rw [hp]
    exact hl
  · simp only [summary, hf, hp]

theorem rest_cases (args : List String) : rest args = [] ∨ ∃ more, rest args = "--" :: more := by
  cases h : rest args with
  | nil => exact .inl rfl
  | cons arg more =>
    have hd := List.head?_dropWhile_not (fun arg ↦ arg != "--") args
    rw [← rest, h] at hd
    refine .inr ⟨more, ?_⟩
    simpa using hd

theorem notMem_front (args : List String) : "--" ∉ front args := by
  intro h
  have hm := List.all_eq_true.1 List.all_takeWhile "--" h
  simp at hm

/-- The arguments in front of the first `--` can be exchanged. -/
theorem parts_append_rest (h : "--" ∉ opts) (args : List String) :
    parts (opts ++ rest args) = opts.map .ofString ++ (rest args).tail.map .positional := by
  induction opts with
  | nil =>
    rcases rest_cases args with hr | ⟨more, hr⟩
    · rw [hr]
      rfl
    · rw [hr]
      rfl
  | cons arg opts ih =>
    obtain ⟨harg, hopts⟩ := not_or.1 (List.mem_cons.not.1 h)
    rw [List.cons_append, parts_cons (Ne.symm harg), ih hopts]
    rfl

theorem eq_of_perm_of_length_le_one {ls ms : List String} (hp : ls.Perm ms)
    (h : ms.length ≤ 1) : ls = ms := by
  cases ms with
  | nil => exact hp.eq_nil
  | cons m ms =>
    rw [List.length_cons] at h
    obtain rfl := List.eq_nil_of_length_eq_zero (by omega : ms.length = 0)
    exact List.perm_singleton.1 hp

theorem ofArguments_perm (h : ofArguments args = .ok o) (hp : opts.Perm (front args)) :
    ofArguments (opts ++ rest args) = .ok o := by
  have hd : "--" ∉ opts := fun hm ↦ notMem_front args (hp.mem_iff.1 hm)
  have hparts : (parts (opts ++ rest args)).Perm (parts args) := by
    rw [parts_append_rest hd]
    exact (hp.map Argument.ofString).append_right _
  have hl := (ofArguments_eq_ok_iff.1 h).1.line
  have hpos := eq_of_perm_of_length_le_one (hparts.filterMap Argument.positional?) hl
  exact ofArguments_congr h (fun arg ↦ hparts.mem_iff) hpos

theorem flag_mem_parts : .flag arg ∈ parts args ↔ arg ∈ front args ∧ FlagLike arg := by
  simp only [parts, Argument.ofString, List.mem_append, List.mem_map]
  constructor
  · rintro (⟨other, ho, he⟩ | ⟨other, _, he⟩)
    · split at he
      · next hf =>
        cases he
        exact ⟨ho, hf⟩
      · cases he
    · cases he
  · rintro ⟨ha, hf⟩
    exact .inl ⟨arg, ha, if_pos hf⟩

theorem ofArguments_repeat (h : ofArguments args = .ok o) {us vs : List String}
    (hs : front args = us ++ vs) (ha : .flag arg ∈ parts args) :
    ofArguments (us ++ arg :: vs ++ rest args) = .ok o := by
  obtain ⟨hm, hf⟩ := flag_mem_parts.1 ha
  have hd : "--" ∉ us ++ arg :: vs := by
    have hn := notMem_front args
    have harg : "--" ≠ arg := fun he ↦ hn (he ▸ hm)
    rw [hs] at hn
    simpa [harg] using hn
  have hold : parts args =
      us.map .ofString ++ (vs.map .ofString ++ (rest args).tail.map .positional) := by
    rw [parts, hs, List.map_append, List.append_assoc]
  have hnew : parts (us ++ arg :: vs ++ rest args) =
      us.map .ofString ++ .flag arg :: (vs.map .ofString ++ (rest args).tail.map .positional) := by
    rw [parts_append_rest hd, List.map_append, List.map_cons, Argument.ofString, if_pos hf,
      List.append_assoc, List.cons_append]
  refine ofArguments_congr h (fun other ↦ ?_) ?_
  · rw [hold] at ha
    rw [hnew, hold]
    by_cases he : other = arg
    · rw [he]
      exact iff_of_true (List.mem_append_right _ List.mem_cons_self) ha
    · simp [he]
  · rw [hnew, hold, positionals_append, positionals_append]
    rfl

/-- Arguments are accepted if all flags are known and there is at most one line; it does not matter
in which order the flags stand, nor how often. Otherwise the first fault from the left is told. -/
theorem ofArguments_parts (args : List String) :
    (∀ o, ofArguments args = .ok o ↔ Accepted (parts args) ∧ o = summary (parts args)) ∧
    (∀ e, ofArguments args = .error e ↔
      ∃ xs x ys, parts args = xs ++ x :: ys ∧ Accepted xs ∧ Faulty xs x e) ∧
    (∀ o, ofArguments args = .ok o →
      (∀ opts, opts.Perm (front args) → ofArguments (opts ++ rest args) = .ok o) ∧
      (∀ us vs arg, front args = us ++ vs → .flag arg ∈ parts args →
        ofArguments (us ++ arg :: vs ++ rest args) = .ok o)) :=
  ⟨fun _ ↦ ofArguments_eq_ok_iff, fun _ ↦ ofArguments_eq_error_iff, fun _ h ↦
    ⟨fun _ ↦ ofArguments_perm h, fun _ _ _ ↦ ofArguments_repeat h⟩⟩

/-- The second `--` is a line, so what looks like a flag behind it is one too many. -/
theorem ofArguments_flags_moved :
    ofArguments ["--no-banner", "-1 + 2", "-v", "--"] =
        .ok { verbose := true, banner := false, line := some "-1 + 2" } ∧
      ofArguments ["-v", "-1 + 2", "-v", "--no-banner", "--"] =
        .ok { verbose := true, banner := false, line := some "-1 + 2" } ∧
      ofArguments ["-v", "--", "--", "-x"] = .error (.unexpectedArgument "-x") := by
  obtain ⟨-, -, hmove⟩ := ofArguments_parts ["-v", "-1 + 2", "--no-banner", "--"]
  obtain ⟨hperm, hrepeat⟩ := hmove _ rfl
  obtain ⟨-, herror, -⟩ := ofArguments_parts ["-v", "--", "--", "-x"]
  have hfront : front ["-v", "-1 + 2", "--no-banner", "--"] = ["-v", "-1 + 2", "--no-banner"] := rfl
  have hone : Accepted [.flag "-v", .positional "--"] :=
    (ofArguments_parts ["-v", "--", "--"]).1 _ |>.1 rfl |>.1
  refine ⟨hperm ["--no-banner", "-1 + 2", "-v"] ?_, ?_, ?_⟩
  · rw [hfront]
    exact List.reverse_perm ["-v", "-1 + 2", "--no-banner"]
  · exact hrepeat ["-v", "-1 + 2"] ["--no-banner"] "-v" hfront (by decide)
  · exact (herror _).2 ⟨_, _, [], rfl, hone, .positional (by decide)⟩

end Calculator.Options
