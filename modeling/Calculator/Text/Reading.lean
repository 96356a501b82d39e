import Calculator.Text.Reader
import Calculator.Text.Utf8

namespace Calculator.Text

/-- What a line editor hands out, one line after the other, until its input ends or cannot be
read. -/
inductive Reading
  | line (text : String) (rest : Reading)
  | interrupted (rest : Reading)
  | endOfInput
  | failed (message : String)
  deriving DecidableEq, Repr

namespace Reading

def prepend (ls : List String) (r : Reading) : Reading := ls.foldr line r

def ofLines (ls : List String) : Reading := prepend ls endOfInput

theorem ofLines_cons (l : String) (ls : List String) : ofLines (l :: ls) = line l (ofLines ls) := rfl

end Reading

/-- A line editor on the bytes of its input, unless it cannot start. -/
abbrev LineEditor := List UInt8 → Except String Reading

def chunks : List UInt8 → List (List UInt8)
  | [] => []
  | b :: bs =>
    if b = newline then [b] :: chunks bs
    else
      match chunks bs with
      | [] => [[b]]
      | c :: cs => (b :: c) :: cs

namespace LineReader

def reading (r : LineReader) : List (List UInt8) → Reading
  | [] => .endOfInput
  | c :: cs =>
    match ofBytes? c with
    | some text => .prepend (r.read text) (r.reading cs)
    | none => .failed "stream did not contain valid UTF-8"

def editor (r : LineReader) : LineEditor := fun input ↦ .ok (r.reading (chunks input))

end LineReader

section Chunks

variable {bs cs : List UInt8}

theorem chunks_newline (h : newline ∉ bs) :
    chunks (bs ++ newline :: cs) = (bs ++ [newline]) :: chunks cs := by
  induction bs with
  | nil => rw [List.nil_append, chunks, if_pos rfl, List.nil_append]
  | cons b bs ih =>
    have hb : newline ≠ b := List.ne_of_not_mem_cons h
    rw [List.cons_append, chunks, if_neg hb.symm, ih (List.not_mem_of_not_mem_cons h),
      List.cons_append]

theorem chunks_of_notMem (h : newline ∉ bs) (hne : bs ≠ []) : chunks bs = [bs] := by
  induction bs with
  | nil => exact absurd rfl hne
  | cons b bs ih =>
    have hb : newline ≠ b := List.ne_of_not_mem_cons h
    rw [chunks, if_neg hb.symm]
    cases bs with
    | nil => rfl
    | cons b' bs => rw [ih (List.not_mem_of_not_mem_cons h) (List.cons_ne_nil _ _)]

end Chunks

theorem exists_newline {s : String} (h : '\n' ∈ s.toList) :
    ∃ t u, s = t ++ "\n" ++ u ∧ '\n' ∉ t.toList := by
  obtain ⟨cs, ds, hs, hc⟩ := List.eq_append_cons_of_mem h
  refine ⟨String.ofList cs, String.ofList ds, ?_, by rwa [String.toList_ofList]⟩
  rw [← String.toList_inj, hs]
  simp

/-- The bytes of a text give its lines. -/
theorem LineReader.reading_bytes (r : LineReader) (s : String) :
    r.reading (chunks (bytes s)) = .ofLines (r.read s) := by
  induction hn : s.toList.length using Nat.strongRecOn generalizing s with
  | ind n ih =>
    by_cases hm : '\n' ∈ s.toList
    · obtain ⟨t, u, rfl, ht⟩ := exists_newline hm
      have hb : bytes (t ++ "\n" ++ u) = bytes t ++ newline :: bytes u := by
        rw [bytes_append, bytes_append, bytes_newline, List.append_assoc, List.singleton_append]
      have hd : ofBytes? (bytes t ++ [newline]) = some (t ++ "\n") := by
        rw [← bytes_newline, ← bytes_append, ofBytes?_bytes]
      have hu : u.toList.length < n := by
        subst hn
        simp
        omega
      rw [hb, chunks_newline fun h ↦ ht (newline_mem_bytes h), reading, hd,
        r.read_append (.inr ⟨t, rfl⟩)]
      simp only [ih _ hu u rfl, Reading.ofLines, Reading.prepend, List.foldr_append]
    · by_cases he : bytes s = []
      · obtain rfl : s = "" := bytes_inj he
        rfl
      · rw [chunks_of_notMem (fun h ↦ hm (newline_mem_bytes h)) he, reading, ofBytes?_bytes]
        rfl

end Calculator.Text
