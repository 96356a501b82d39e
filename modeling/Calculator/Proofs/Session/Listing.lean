import Calculator.Proofs.Session.Replay
import Calculator.Proofs.Variables
import Mathlib.Data.List.Perm.Basic

namespace Calculator

open Text

def entry (b : String × Int) : String := b.1 ++ " = " ++ toString b.2

theorem toList_entry (b : String × Int) :
    (entry b).toList = b.1.toList ++ ([' ', '=', ' '] ++ (toString b.2).toList) := by
  simp only [entry, String.toList_append, List.append_assoc]
  rfl

theorem isBlank_of_isIdentifier {cs : List Char} (h : isIdentifier cs = true) :
    ∀ c ∈ cs, isBlank c = false := by
  intro c hc
  exact isBlank_of_isAlphanum (isAlphanum_of_isAlpha ((isIdentifier_iff.1 h).2 c hc))

theorem isBlank_of_readInt? {cs : List Char} {v : Int} (h : readInt? cs = some v) :
    ∀ c ∈ cs, isBlank c = false := by
  intro c hc
  rcases (isDigit_or_sign_of_readInt? h).2 c hc with rfl | rfl | hd
  · rfl
  · rfl
  · exact isBlank_of_isAlphanum (isAlphanum_of_isDigit hd)

theorem equals_notMem_of_readInt? {cs : List Char} {v : Int} (h : readInt? cs = some v) :
    '=' ∉ cs := by
  intro hc
  rcases (isDigit_or_sign_of_readInt? h).2 '=' hc with he | he | he <;> cases he

section

variable {b : String × Int}

theorem toList_toString_ne_nil (v : Int) : (toString v).toList ≠ [] :=
  (isDigit_or_sign_of_readInt? (readInt?_toString v)).1

theorem isBlank_toString (v : Int) : ∀ c ∈ (toString v).toList, isBlank c = false :=
  isBlank_of_readInt? (readInt?_toString v)

theorem trim_entry (h : isIdentifier b.1.toList = true) :
    trim (entry b).toList = (entry b).toList := by
  have hname : b.1.toList ≠ [] := (isIdentifier_iff.1 h).1
  have hvalue : (toString b.2).toList ≠ [] := toList_toString_ne_nil b.2
  have hf : ∀ c ∈ (entry b).toList.head?, isBlank c = false := by
    intro c hc
    rw [toList_entry, List.head?_append_of_ne_nil _ hname] at hc
    exact isBlank_of_isIdentifier h c (List.mem_of_mem_head? hc)
  have hl : ∀ c ∈ (entry b).toList.getLast?, isBlank c = false := by
    intro c hc
    rw [toList_entry, ← List.append_assoc, List.getLast?_append_of_ne_nil _ hvalue] at hc
    exact isBlank_toString b.2 c (List.mem_of_mem_getLast? hc)
  have hne : (entry b).toList ≠ [] := by
    rw [toList_entry]
    exact List.append_ne_nil_of_left_ne_nil hname _
  have ht := trim_append [] [] nofun nofun hne hf hl
  rwa [List.nil_append, List.append_nil] at ht

theorem newline_notMem_entry (h : isIdentifier b.1.toList = true) : '\n' ∉ (entry b).toList := by
  rw [toList_entry, List.mem_append, List.mem_append]
  rintro (hn | hm | hv)
  · cases isBlank_of_isIdentifier h '\n' hn
  · simp at hm
  · cases isBlank_toString b.2 '\n' hv

theorem assigns_entry (h : isIdentifier b.1.toList = true) (ρ : String → Option Int) :
    Assigns ρ (trim (entry b).toList) b.1 b.2 := by
  have hl : '=' ∉ b.1.toList ++ [' '] := by
    rw [List.mem_append]
    rintro (hn | hb)
    · cases (isIdentifier_iff.1 h).2 '=' hn
    · simp at hb
  have hr : '=' ∉ ' ' :: (toString b.2).toList := by
    rw [List.mem_cons]
    rintro (hb | hv)
    · cases hb
    · exact equals_notMem_of_readInt? (readInt?_toString b.2) hv
  have hb : ∀ c ∈ [' '], isBlank c = true := List.forall_mem_singleton.2 rfl
  have hname : trim (b.1.toList ++ [' ']) = b.1.toList :=
    trim_append_of_isBlank [] [' '] nofun hb (isIdentifier_iff.1 h).1 (isBlank_of_isIdentifier h)
  have hvalue : trim (' ' :: (toString b.2).toList) = (toString b.2).toList := by
    have ht := trim_append_of_isBlank [' '] [] hb nofun (toList_toString_ne_nil b.2)
      (isBlank_toString b.2)
    rwa [List.append_nil] at ht
  have hc : (entry b).toList = (b.1.toList ++ [' ']) ++ '=' :: (' ' :: (toString b.2).toList) := by
    rw [toList_entry]
    simp
  rw [trim_entry h]
  exact ⟨h, _, ⟨_, _, hc, hl, hr, hname, hvalue⟩, .inl (readInt?_toString b.2)⟩

end

/-- The lines of the listing are those of the variables, each by itself. -/
theorem splitOn_listing {vars : Variables} (hne : vars.isEmpty = false)
    (h : ∀ b ∈ vars.bindings, isIdentifier b.1.toList = true) :
    (vars.listing.toList.splitOn '\n').map String.ofList = vars.bindings.map entry := by
  have hb : vars.bindings ≠ [] := by simpa [Variables.isEmpty] using hne
  have ht : vars.listing.toList =
      ['\n'].intercalate ((vars.bindings.map entry).map String.toList) :=
    String.toList_intercalate
  rw [ht, List.splitOn_intercalate]
  · simp
  · intro cs hcs
    simp only [List.map_map, List.mem_map] at hcs
    obtain ⟨b, hb, rfl⟩ := hcs
    exact newline_notMem_entry (h b hb)
  · simpa using hb

namespace Session

variable {bs : List (String × Int)}

theorem execute_entry (s : Session) {b : String × Int} (h : isIdentifier b.1.toList = true) :
    s.execute (entry b) = (.silent, { s with vars := s.vars.insert b.1 b.2 }) := by
  rw [execute, attempt_of_assigns (assigns_entry h s.vars.get?)]

theorem run_entries (s : Session) (h : ∀ b ∈ bs, isIdentifier b.1.toList = true) :
    s.run (bs.map fun b ↦ .execute (entry b)) =
      (bs.map fun _ ↦ .outcome .silent,
        { s with vars := bs.foldl (fun vars b ↦ vars.insert b.1 b.2) s.vars }) := by
  induction bs generalizing s with
  | nil => rfl
  | cons b bs ih =>
    obtain ⟨hb, hbs⟩ := List.forall_mem_cons.1 h
    have hs : s.step (.execute (entry b)) =
        (.outcome .silent, { s with vars := s.vars.insert b.1 b.2 }) := by
      rw [step, s.execute_entry hb]
    simp only [List.map_cons, run, hs, ih _ hbs, List.foldl_cons]

theorem isIdentifier_of_mem_after {verbose : Bool} {xs : List Step} :
    ∀ b ∈ (after verbose xs).vars.bindings, isIdentifier b.1.toList = true := by
  intro b hb
  exact (introduced_of_get? (Variables.get?_eq_some_iff.2 hb)).1

theorem step_vars (s : Session) :
    s.step (.execute "/vars") =
      (.outcome (.print (if s.vars.isEmpty then "No variables defined" else s.vars.listing)), s) :=
  rfl

/-- Whatever order the lines of the listing are in. -/
theorem run_listing {vars : Variables} {ls : List String} (hne : vars.isEmpty = false)
    (h : ∀ b ∈ vars.bindings, isIdentifier b.1.toList = true)
    (hp : ls.Perm ((vars.listing.toList.splitOn '\n').map String.ofList)) (verbose : Bool) :
    run ⟨∅, verbose⟩ (ls.map .execute) = (ls.map fun _ ↦ .outcome .silent, ⟨vars, verbose⟩) := by
  rw [splitOn_listing hne h] at hp
  have hls : ∃ bs : List (String × Int), ls = bs.map entry ∧ bs.Perm vars.bindings := by
    have hc := congrFun (congrFun (List.eq_map_comp_perm entry) ls) vars.bindings
    exact hc.mpr hp
  obtain ⟨bs, rfl, hbs⟩ := hls
  have hr := run_entries ⟨∅, verbose⟩ fun b hb ↦ h b (hbs.mem_iff.1 hb)
  rw [List.map_map, List.map_map, ← Variables.ofList_eq_of_perm hbs]
  exact hr

theorem listing_ne {vars : Variables} (hne : vars.isEmpty = false)
    (h : ∀ b ∈ vars.bindings, isIdentifier b.1.toList = true) :
    vars.listing ≠ "No variables defined" := by
  intro he
  have hr := run_listing hne h (.refl _) false
  rw [he] at hr
  have hs : (run ⟨∅, false⟩ ((("No variables defined".toList.splitOn '\n').map
      String.ofList).map .execute)).1 = [.outcome (.print "Unknown variable")] := rfl
  rw [hr] at hs
  cases hs

theorem vars_eq_of_step_vars {s s' : Session}
    (h : ∀ b ∈ s.vars.bindings, isIdentifier b.1.toList = true)
    (h' : ∀ b ∈ s'.vars.bindings, isIdentifier b.1.toList = true)
    (hs : (s.step (.execute "/vars")).1 = (s'.step (.execute "/vars")).1) : s.vars = s'.vars := by
  rw [step_vars, step_vars] at hs
  have ht : (if s.vars.isEmpty then "No variables defined" else s.vars.listing) =
      if s'.vars.isEmpty then "No variables defined" else s'.vars.listing :=
    Outcome.print.inj (Answer.outcome.inj hs)
  cases hv : s.vars.isEmpty with
  | true =>
    cases hv' : s'.vars.isEmpty with
    | true => rw [Variables.eq_empty_of_isEmpty hv, Variables.eq_empty_of_isEmpty hv']
    | false =>
      rw [hv, hv'] at ht
      exact absurd ht.symm (listing_ne hv' h')
  | false =>
    cases hv' : s'.vars.isEmpty with
    | true =>
      rw [hv, hv'] at ht
      exact absurd ht (listing_ne hv h)
    | false =>
      have hl : s.vars.listing = s'.vars.listing := by
        rw [hv, hv'] at ht
        exact ht
      have hr := run_listing hv h (.refl _) false
      have hr' := run_listing hv' h' (.refl _) false
      rw [hl, hr'] at hr
      exact (congrArg (fun r ↦ r.2.vars) hr).symm

/-- The listing of the variables is a text of lines that define them again, whatever order the lines
are in, and no other variables have that listing. -/
theorem replay_listing (verbose : Bool) (xs : List Step) :
    ((after verbose xs).vars.isEmpty = false →
      ∃ text, ((after verbose xs).step (.execute "/vars")).1 = .outcome (.print text) ∧
        ∀ (verbose' : Bool) (ls : List String),
          ls.Perm ((text.toList.splitOn '\n').map String.ofList) →
          (run ⟨∅, verbose'⟩ (ls.map .execute)).1 = ls.map (fun _ ↦ .outcome .silent) ∧
          (run ⟨∅, verbose'⟩ (ls.map .execute)).2.vars = (after verbose xs).vars ∧
          ((run ⟨∅, verbose'⟩ (ls.map .execute)).2.step (.execute "/vars")).1 =
            .outcome (.print text)) ∧
    ∀ (verbose' : Bool) (ys : List Step),
      ((after verbose xs).step (.execute "/vars")).1 =
          ((after verbose' ys).step (.execute "/vars")).1 ↔
        (after verbose xs).vars = (after verbose' ys).vars := by
  have hi : ∀ b ∈ (after verbose xs).vars.bindings, isIdentifier b.1.toList = true :=
    isIdentifier_of_mem_after
  refine ⟨fun hne ↦ ⟨(after verbose xs).vars.listing, ?_, fun verbose' ls hp ↦ ?_⟩,
    fun verbose' ys ↦ ⟨fun hs ↦ ?_, fun hv ↦ ?_⟩⟩
  · rw [step_vars, hne]
    rfl
  · rw [run_listing hne hi hp verbose', step_vars, hne]
    exact ⟨rfl, rfl, rfl⟩
  · exact vars_eq_of_step_vars hi isIdentifier_of_mem_after hs
  · rw [step_vars, step_vars, hv]

theorem replay_two_variables :
    (run ⟨∅, true⟩ [.execute "b = 20", .execute "a = -1"]).2.vars =
        (after false [.execute "a = 20", .attempt "b = a", .execute "a=-01"]).vars ∧
      ((run ⟨∅, true⟩ [.execute "b = 20", .execute "a = -1"]).2.step (.execute "/vars")).1 =
        .outcome (.print "a = -1\nb = 20") := by
  obtain ⟨text, ht, h⟩ :=
    (replay_listing false [.execute "a = 20", .attempt "b = a", .execute "a=-01"]).1 rfl
  have he : text = "a = -1\nb = 20" := (Outcome.print.inj (Answer.outcome.inj ht)).symm
  rw [he] at h
  exact (h true ["b = 20", "a = -1"] (by decide)).2

end Session

end Calculator
