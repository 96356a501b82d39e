import Calculator.Proofs.Token.Image
import Calculator.Proofs.Yard.Conservation

namespace Calculator

open Text

namespace Token

/-- The token that a text in a dump is taken for: a name that reads like a sign is taken for it. -/
def shown : Token → Token
  | var name => if name = "neg" then unary .sub else if name = "pos" then unary .add else var name
  | t => t

variable {t : Token}

theorem shown_eq_self (hn : t ≠ var "neg") (hp : t ≠ var "pos") : t.shown = t := by
  cases t with
  | var name =>
    have hn : name ≠ "neg" := fun h ↦ hn (congrArg var h)
    have hp : name ≠ "pos" := fun h ↦ hp (congrArg var h)
    rw [shown, if_neg hn, if_neg hp]
  | num | word | unary | binary | lparen | rparen => rfl

theorem text_shown (t : Token) : t.shown.text = t.text := by
  cases t with
  | var name =>
    rw [shown]
    split
    · next h => rw [h]; rfl
    · split
      · next h => rw [h]; rfl
      · rfl
  | num | word | unary | binary | lparen | rparen => rfl

theorem follows_rparen (h : ∀ op, t ≠ unary op) : t.Follows (some rparen) where
  run _ := by
    rintro p ⟨⟩
    exact id
  sign _ := by
    rintro p ⟨⟩
    exact id
  binary _ _ _ := ⟨rparen, rfl, .inr rfl⟩
  unary op he := absurd he (h op)

theorem spelling_eq_text (h : ∀ op, t ≠ unary op) : t.spelling = t.text := by
  cases t with
  | unary op => exact absurd rfl (h op)
  | num | var | word | binary | lparen | rparen => rfl

/-- Behind an operand, any token but a sign in front of an operand is read from its text. -/
theorem Typed.tokens_text (h : t.Typed) (hu : ∀ op, t ≠ unary op) :
    Lexeme.tokens true (Lexeme.ofText t.text.toList) = .ok [t] := by
  have hl : Lexed (some rparen) [t] := ⟨h, follows_rparen hu, trivial⟩
  have hr := hl.tokens_flatMap
  rwa [List.flatMap_singleton, spelling_eq_text hu] at hr

def ofPiece (cs : List Char) : Except LexError (List Token) :=
  (Lexeme.tokens true (Lexeme.ofText cs)).map (List.map shown)

theorem Typed.ofPiece_text (h : t.Typed) : ofPiece t.text.toList = .ok [t.shown] := by
  cases t with
  | unary op => rcases h with rfl | rfl <;> rfl
  | num | var | word | binary | lparen | rparen =>
    rw [ofPiece, h.tokens_text nofun]
    rfl

theorem Typed.text_ne_nil (h : t.Typed) : t.text.toList ≠ [] := by
  intro he
  have hr := h.ofPiece_text
  rw [he] at hr
  cases hr

theorem Typed.isBlank_text (h : t.Typed) : ∀ c ∈ t.text.toList, isBlank c = false := by
  have hs := h.isBlank_spelling
  cases t with
  | unary op =>
    have ha : ∀ c ∈ (unary op).text.toList, c.isAlpha = true := by
      rcases h with rfl | rfl <;> exact List.all_eq_true.1 rfl
    exact fun c hc ↦ isBlank_of_isAlphanum (isAlphanum_of_isAlpha (ha c hc))
  | num | var | word | binary | lparen | rparen => exact hs

end Token

open Token

variable {ts us : List Token}

def readDump (dump : String) : List (Except LexError (List Token)) :=
  ((dump.toList.splitOn ' ').filter (· ≠ [])).map ofPiece

theorem splitOn_dumpTokens (h : ∀ t ∈ ts, t.Typed) :
    ((dumpTokens ts).toList.splitOn ' ').filter (· ≠ []) = ts.map (·.text.toList) := by
  cases ts with
  | nil =>
    rfl
  | cons t ts =>
    have ht : (dumpTokens (t :: ts)).toList =
        [' '].intercalate ((t :: ts).map (·.text.toList)) := by
      rw [dumpTokens, String.toList_intercalate, List.map_map]
      rfl
    rw [ht, List.splitOn_intercalate, List.filter_eq_self]
    · intro cs hcs
      obtain ⟨u, hu, rfl⟩ := List.mem_map.1 hcs
      exact decide_eq_true (h u hu).text_ne_nil
    · intro cs hcs hb
      obtain ⟨u, hu, rfl⟩ := List.mem_map.1 hcs
      cases (h u hu).isBlank_text ' ' hb
    · exact List.cons_ne_nil _ _

/-- A dump shows its tokens one by one. -/
theorem readDump_dumpTokens (h : ∀ t ∈ ts, t.Typed) :
    readDump (dumpTokens ts) = (ts.map shown).map fun t ↦ .ok [t] := by
  rw [readDump, splitOn_dumpTokens h, List.map_map, List.map_map]
  exact List.map_congr_left fun t ht ↦ (h t ht).ofPiece_text

theorem dumpTokens_eq_iff (ht : ∀ t ∈ ts, t.Typed) (hu : ∀ u ∈ us, u.Typed) :
    dumpTokens ts = dumpTokens us ↔ ts.map shown = us.map shown := by
  constructor
  · intro h
    have hr := congrArg readDump h
    rw [readDump_dumpTokens ht, readDump_dumpTokens hu] at hr
    exact (List.map_inj_right fun t u h ↦ List.singleton_inj.1 (Except.ok.inj h)).1 hr
  · intro h
    have hm := congrArg (List.map Token.text) h
    simp only [List.map_map, Function.comp_def, text_shown] at hm
    exact congrArg (String.intercalate " ") hm

def Unmistakable (ts : List Token) : Prop := .var "neg" ∉ ts ∧ .var "pos" ∉ ts

theorem Unmistakable.map_shown (h : Unmistakable ts) : ts.map shown = ts := by
  have hs : ∀ t ∈ ts, t.shown = t := fun t ht ↦
    shown_eq_self (fun he ↦ h.1 (he ▸ ht)) fun he ↦ h.2 (he ▸ ht)
  rw [List.map_congr_left hs, List.map_id']

theorem eq_of_dumpTokens_eq (ht : ∀ t ∈ ts, t.Typed) (hu : ∀ u ∈ us, u.Typed)
    (hts : Unmistakable ts) (hus : Unmistakable us) (h : dumpTokens ts = dumpTokens us) :
    ts = us := by
  have hs := (dumpTokens_eq_iff ht hu).1 h
  rwa [hts.map_shown, hus.map_shown] at hs

def Scanned (ts : List Token) : Prop :=
  ∃ (s : Scanner) (line : String), (s.tokenize line).1 = .ok ts

theorem Scanned.typed (h : Scanned ts) : ∀ t ∈ ts, t.Typed := by
  obtain ⟨s, line, h⟩ := h
  rw [s.tokenize_fst] at h
  exact (lexed_of_tokenize h).typed

theorem Scanned.typed_of_toPostfix {vars : Variables} {ps : List Token} (h : Scanned ts)
    (hp : toPostfix vars ts = .ok ps) : ∀ t ∈ ps, t.Typed :=
  fun t ht ↦ h.typed t (mem_of_toPostfix hp ht).1

/-- The dumps of what was read from two lines, and of the postfix forms of that, tell the two apart
unless there is a variable that is named like a sign. Such a name and the sign look the same. -/
theorem dumpTokens_identifies :
    (∀ ts us, Scanned ts → Scanned us → Unmistakable ts → Unmistakable us →
      dumpTokens ts = dumpTokens us → ts = us) ∧
    (∀ vars vars' ts us ps qs, Scanned ts → Scanned us → toPostfix vars ts = .ok ps →
      toPostfix vars' us = .ok qs → Unmistakable ps → Unmistakable qs →
      dumpTokens ps = dumpTokens qs → ps = qs) ∧
    ∀ name op, (name = "neg" ∧ op = .sub) ∨ (name = "pos" ∧ op = .add) →
      ∃ vars, Scanned [.var name] ∧ toPostfix vars [.var name] = .ok [.var name] ∧
        Scanned [.unary op] ∧ toPostfix vars [.unary op] = .ok [.unary op] ∧
        dumpTokens [.var name] = dumpTokens [.unary op] := by
  refine ⟨fun ts us h h' ↦ eq_of_dumpTokens_eq h.typed h'.typed, ?_, ?_⟩
  · intro vars vars' ts us ps qs h h' hp hq
    exact eq_of_dumpTokens_eq (h.typed_of_toPostfix hp) (h'.typed_of_toPostfix hq)
  · rintro name op (⟨rfl, rfl⟩ | ⟨rfl, rfl⟩)
    · exact ⟨.ofList [("neg", 0)], ⟨{}, "neg", rfl⟩, rfl, ⟨{}, "-", rfl⟩, rfl, rfl⟩
    · exact ⟨.ofList [("pos", 0)], ⟨{}, "pos", rfl⟩, rfl, ⟨{}, "+", rfl⟩, rfl, rfl⟩

/-- Two signs are one in either form. -/
theorem dumpTokens_double_minus :
    ∃ ts us ps qs, tokenize "a -- 2*b" = .ok ts ∧ tokenize "a+2 * b" = .ok us ∧
      toPostfix (.ofList [("a", 1), ("b", 2)]) ts = .ok ps ∧
      toPostfix (.ofList [("b", 3), ("a", 4)]) us = .ok qs ∧ ts = us ∧ ps = qs := by
  let ts : List Token := [.var "a", .binary .add, .num 2, .binary .mul, .var "b"]
  let ps : List Token := [.var "a", .num 2, .var "b", .binary .mul, .binary .add]
  have hts : tokenize "a -- 2*b" = .ok ts := rfl
  have hus : tokenize "a+2 * b" = .ok ts := rfl
  have hps : toPostfix (.ofList [("a", 1), ("b", 2)]) ts = .ok ps := rfl
  have hqs : toPostfix (.ofList [("b", 3), ("a", 4)]) ts = .ok ps := rfl
  have hscanned : Scanned ts := ⟨{}, "a -- 2*b", hts⟩
  have hscanned' : Scanned ts := ⟨{}, "a+2 * b", hus⟩
  have hinfix : Unmistakable ts := ⟨by decide, by decide⟩
  have hpostfix : Unmistakable ps := ⟨by decide, by decide⟩
  exact ⟨ts, ts, ps, ps, hts, hus, hps, hqs,
    dumpTokens_identifies.1 ts ts hscanned hscanned' hinfix hinfix rfl,
    dumpTokens_identifies.2.1 _ _ ts ts ps ps hscanned hscanned' hps hqs hpostfix hpostfix rfl⟩

example : (tokenize "-(a+12)^2").map dumpTokens = .ok "neg ( a + 12 ) ^ 2" := rfl

end Calculator
