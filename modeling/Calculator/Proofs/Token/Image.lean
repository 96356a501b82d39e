import Calculator.Proofs.Token.Denotation

namespace Calculator

open Text

namespace Token

/-- A token as it is typed, where a sign in front of an operand is its symbol as well. -/
def spelling : Token → String
  | unary op => op.symbol.toString
  | t => t.text

def IsRun : Token → Prop
  | num _ | var _ | word _ => True
  | unary _ | binary _ | lparen | rparen => False

def IsSign : Token → Prop
  | unary op | binary op => op.Additive
  | num _ | var _ | word _ | lparen | rparen => False

/-- What a token can hold that a line holds. -/
def Typed : Token → Prop
  | num n => 0 ≤ n
  | var name => name.toList ≠ [] ∧ ∀ c ∈ name.toList, c.isAlpha = true
  | word text =>
    (∀ c ∈ text.toList, c.isAlpha = true ∨ c.isDigit = true) ∧
      (∃ c ∈ text.toList, c.isAlpha = true) ∧ ∃ c ∈ text.toList, c.isDigit = true
  | unary op => op.Additive
  | binary _ | lparen | rparen => True

/-- Which token can stand directly behind which; the first one has none in front of it. -/
structure Follows (prev : Option Token) (t : Token) : Prop where
  run : t.IsRun → ∀ p ∈ prev, ¬ p.IsRun
  sign : t.IsSign → ∀ p ∈ prev, ¬ p.IsSign
  binary : ∀ op : Op, op.Additive → t = .binary op → ∃ p ∈ prev, p.IsRun ∨ p = .rparen
  unary : ∀ op : Op, t = .unary op → ¬ ∃ p ∈ prev, p.IsRun ∨ p = .rparen

def Lexed : Option Token → List Token → Prop
  | _, [] => True
  | prev, t :: ts => t.Typed ∧ t.Follows prev ∧ Lexed (some t) ts

inductive Spelled : List Token → List Char → Prop
  | nil {ws : List Char} : (∀ c ∈ ws, isBlank c = true) → Spelled [] ws
  | cons {ws cs : List Char} {t : Token} {ts : List Token} :
      (∀ c ∈ ws, isBlank c = true) → Spelled ts cs →
        Spelled (t :: ts) (ws ++ (t.spelling.toList ++ cs))

def lexeme : Token → Lexeme
  | num n => .run (toString n).toList
  | var name => .run name.toList
  | word text => .run text.toList
  | unary op | binary op => .single op.symbol
  | lparen => .mark '('
  | rparen => .mark ')'

variable {prev : Option Token} {t u : Token} {ts : List Token}

theorem text_lexeme (t : Token) : t.lexeme.text = t.spelling.toList := by
  cases t with
  | num | var | word | lparen | rparen => rfl
  | unary op | binary op => cases op <;> rfl

theorem endsOperand_iff : t.endsOperand = true ↔ t.IsRun ∨ t = .rparen := by
  cases t <;> simp [endsOperand, IsRun]

theorem any_endsOperand_iff :
    prev.any Token.endsOperand = true ↔ ∃ p ∈ prev, p.IsRun ∨ p = .rparen := by
  rw [Option.any_eq_true]
  simp only [endsOperand_iff, Option.mem_def]

end Token

namespace Lexeme

open Token

variable {b c : Bool} {l m : Lexeme} {t u : Token} {prev : Option Token}

theorem Denotes.isRun_iff (h : Denotes b l t) : t.IsRun ↔ ∃ cs, l = run cs := by
  cases h <;> simp [IsRun]

theorem Denotes.isSign_iff (h : Denotes b l t) : t.IsSign ↔ ∃ cs, l = signs cs := by
  cases h with
  | binarySign ha | unarySign ha => exact ⟨fun _ ↦ ⟨_, rfl⟩, fun _ ↦ ha.additive⟩
  | product | quotient | power => simp [IsSign, Op.Additive]
  | name | number | word | opening | closing => simp [IsSign]

/-- Two lexemes would be one if both are runs or both are signs, and so would their tokens. -/
theorem Denotes.joins_iff (h : Denotes b l t) (h' : Denotes c m u) :
    l.Joins m ↔ t.IsRun ∧ u.IsRun ∨ t.IsSign ∧ u.IsSign := by
  rw [h.isRun_iff, h.isSign_iff, h'.isRun_iff, h'.isSign_iff]
  cases l <;> cases m <;> simp [Joins]

theorem Denotes.typed (h : Denotes b l t) (hp : l.Proper) : t.Typed := by
  cases h with
  | name ha =>
    rw [Typed, String.toList_ofList]
    exact ⟨hp.1, ha⟩
  | number => exact Int.natCast_nonneg _
  | word ha hd =>
    obtain ⟨c, hm, hc⟩ := ha
    obtain ⟨d, hn, hd⟩ := hd
    have hcs := fun c hc ↦ isAlphanum_iff.1 (hp.2 c hc)
    rw [Typed, String.toList_ofList]
    refine ⟨hcs, ⟨d, hn, (hcs d hn).resolve_right ?_⟩, c, hm, (hcs c hm).resolve_left ?_⟩
    · simp [hd]
    · simp [hc]
  | unarySign ha => exact ha.additive
  | binarySign | product | quotient | power | opening | closing => trivial

theorem Denotes.eq_true_of_binary {op : Op} (h : Denotes b l (.binary op)) (ha : op.Additive) :
    b = true := by
  cases h with
  | binarySign => rfl
  | product | quotient | power => simp [Op.Additive] at ha

theorem Denotes.eq_false_of_unary {op : Op} (h : Denotes b l (.unary op)) : b = false := by
  cases h
  rfl

theorem Denotes.follows (h : Denotes (prev.any Token.endsOperand) l t)
    (hj : ∀ p ∈ prev, ∃ c k, Denotes c k p ∧ ¬ k.Joins l) : t.Follows prev where
  run ht p hp := by
    intro hr
    obtain ⟨c, k, hk, hn⟩ := hj p hp
    exact hn ((hk.joins_iff h).2 (.inl ⟨hr, ht⟩))
  sign ht p hp := by
    intro hs
    obtain ⟨c, k, hk, hn⟩ := hj p hp
    exact hn ((hk.joins_iff h).2 (.inr ⟨hs, ht⟩))
  binary op ha he := by
    subst he
    exact any_endsOperand_iff.1 (h.eq_true_of_binary ha)
  unary op he := by
    subst he
    rw [← any_endsOperand_iff, h.eq_false_of_unary]
    exact Bool.false_ne_true

theorem DenotesEach.lexed {ls : List Lexeme} {ts : List Token}
    (h : DenotesEach (prev.any Token.endsOperand) ls ts) (hm : Maximal ls)
    (hj : ∀ p ∈ prev, ∃ c k, Denotes c k p ∧ ∀ l ∈ ls.head?, ¬ k.Joins l) : Lexed prev ts := by
  generalize hb : prev.any Token.endsOperand = b at h
  -- The lexeme of the token in front goes along, as only lexemes tell what would join.
  induction h generalizing prev with
  | nil => trivial
  | @cons b l t ls ts hd hr ih =>
    subst hb
    obtain ⟨hp, hl, hm⟩ := hm
    refine ⟨hd.typed hp, hd.follows fun p hp ↦ ?_, ih hm ?_ hd.endsOperand_eq⟩
    · obtain ⟨c, k, hk, hn⟩ := hj p hp
      exact ⟨c, k, hk, hn l rfl⟩
    · rintro p ⟨⟩
      exact ⟨_, l, hd, hl⟩

end Lexeme

namespace Token

variable {prev : Option Token} {t u : Token} {ts : List Token}

theorem single_symbol {op : Op} (h : op.Additive) :
    Lexeme.single op.symbol = .signs [op.symbol] := by
  rcases h with rfl | rfl <;> rfl

theorem amounts_symbol {op : Op} (h : op.Additive) : Lexeme.Amounts [op.symbol] op := by
  rcases h with rfl | rfl
  · exact .inr ⟨rfl, rfl⟩
  · exact .inl ⟨rfl, rfl⟩

theorem Typed.proper (h : t.Typed) : t.lexeme.Proper := by
  cases t with
  | num n =>
    obtain ⟨⟨hne, hd⟩, _⟩ := digits_toString h
    exact ⟨hne, fun c hc ↦ isAlphanum_of_isDigit (hd c hc)⟩
  | var name => exact ⟨h.1, fun c hc ↦ isAlphanum_of_isAlpha (h.2 c hc)⟩
  | word text =>
    obtain ⟨hcs, ⟨c, hc, _⟩, _⟩ := h
    exact ⟨List.ne_nil_of_mem hc, fun d hd ↦ isAlphanum_iff.2 (hcs d hd)⟩
  | unary op | binary op =>
    cases op with
    | add | sub => exact ⟨nofun, List.forall_mem_singleton.2 rfl⟩
    | mul | div | pow => exact ⟨rfl, rfl⟩
  | lparen | rparen => exact ⟨rfl, rfl⟩

theorem Follows.denotes (h : t.Follows prev) (ht : t.Typed) :
    Lexeme.Denotes (prev.any endsOperand) t.lexeme t := by
  cases t with
  | num n =>
    obtain ⟨⟨_, hd⟩, hn⟩ := digits_toString ht
    have hl : Lexeme.Denotes (prev.any endsOperand) (num n).lexeme
        (.num (decimal (toString n).toList)) := .number hd
    rwa [hn] at hl
  | var name =>
    have hl : Lexeme.Denotes (prev.any endsOperand) (var name).lexeme
        (.var (String.ofList name.toList)) := .name ht.2
    rwa [String.ofList_toList] at hl
  | word text =>
    obtain ⟨_, ⟨c, hc, ha⟩, d, hd, hn⟩ := ht
    have hl : Lexeme.Denotes (prev.any endsOperand) (word text).lexeme
        (.word (String.ofList text.toList)) :=
      .word ⟨d, hd, isAlpha_eq_false_of_isDigit hn⟩ ⟨c, hc, isDigit_eq_false_of_isAlpha ha⟩
    rwa [String.ofList_toList] at hl
  | unary op =>
    have hb : prev.any endsOperand = false := by
      rw [← Bool.not_eq_true, any_endsOperand_iff]
      exact h.unary op rfl
    rw [hb, lexeme, single_symbol ht]
    exact .unarySign (amounts_symbol ht)
  | binary op =>
    by_cases ha : op.Additive
    · have hb : prev.any endsOperand = true := any_endsOperand_iff.2 (h.binary op ha rfl)
      rw [hb, lexeme, single_symbol ha]
      exact .binarySign (amounts_symbol ha)
    · cases op with
      | add => exact absurd (.inl rfl) ha
      | sub => exact absurd (.inr rfl) ha
      | mul => exact .product
      | div => exact .quotient
      | pow => exact .power
  | lparen => exact .opening
  | rparen => exact .closing

theorem Lexed.denotesEach (h : Lexed prev ts) :
    Lexeme.DenotesEach (prev.any endsOperand) (ts.map lexeme) ts := by
  induction ts generalizing prev with
  | nil => exact .nil
  | cons t ts ih =>
    obtain ⟨ht, hf, hr⟩ := h
    have hd := hf.denotes ht
    refine .cons hd ?_
    rw [← hd.endsOperand_eq]
    exact ih hr

theorem Lexed.maximal (h : Lexed prev ts) : Lexeme.Maximal (ts.map lexeme) := by
  induction ts generalizing prev with
  | nil => trivial
  | cons t ts ih =>
    obtain ⟨ht, hf, hr⟩ := h
    refine ⟨ht.proper, ?_, ih hr⟩
    cases ts with
    | nil => exact nofun
    | cons u us =>
      obtain ⟨hu, hg, _⟩ := hr
      rintro m ⟨⟩ hj
      rcases ((hf.denotes ht).joins_iff (hg.denotes hu)).1 hj with ⟨hrun, hrun'⟩ | ⟨hsign, hsign'⟩
      · exact hg.run hrun' t rfl hrun
      · exact hg.sign hsign' t rfl hsign

/-- Spellings without anything between them are read as what they spell. -/
theorem Lexed.tokens_flatMap (h : Lexed prev ts) :
    Lexeme.tokens (prev.any endsOperand) (Lexeme.ofText (ts.flatMap (·.spelling.toList))) =
      .ok ts := by
  have ht : ts.flatMap (·.spelling.toList) = (ts.map lexeme).flatMap Lexeme.text := by
    rw [List.flatMap_map]
    simp only [text_lexeme]
  rw [ht, h.maximal.ofText_flatMap_text]
  exact (Lexeme.tokens_eq_ok_iff h.maximal.proper).2 h.denotesEach

theorem Lexed.typed (h : Lexed prev ts) : ∀ t ∈ ts, t.Typed := by
  induction ts generalizing prev with
  | nil => exact nofun
  | cons t ts ih =>
    obtain ⟨ht, _, hr⟩ := h
    exact List.forall_mem_cons.2 ⟨ht, ih hr⟩

theorem Typed.isBlank_spelling (h : t.Typed) : ∀ c ∈ t.spelling.toList, isBlank c = false := by
  have hp := h.proper
  cases t with
  | num | var | word => exact fun c hc ↦ isBlank_of_isAlphanum (hp.2 c hc)
  | unary op | binary op =>
    rw [← text_lexeme, lexeme, Lexeme.text_single]
    exact List.forall_mem_singleton.2 op.isBlank_symbol
  | lparen | rparen => exact List.forall_mem_singleton.2 rfl

theorem Spelled.squeeze {cs : List Char} (h : Spelled ts cs) (ht : ∀ t ∈ ts, t.Typed) :
    squeeze cs = ts.flatMap (·.spelling.toList) := by
  induction h with
  | nil hw => exact squeeze_eq_nil_iff.2 hw
  | cons hw _ ih =>
    obtain ⟨ht, hts⟩ := List.forall_mem_cons.1 ht
    rw [squeeze_append, squeeze_append, squeeze_eq_nil_iff.2 hw,
      squeeze_of_isBlank ht.isBlank_spelling, ih hts]
    rfl

theorem spelled_flatMap (ts : List Token) : Spelled ts (ts.flatMap (·.spelling.toList)) := by
  induction ts with
  | nil => exact .nil nofun
  | cons t ts ih =>
    have h : Spelled (t :: ts) ([] ++ (t.spelling.toList ++ ts.flatMap (·.spelling.toList))) :=
      .cons nofun ih
    exact h

end Token

theorem lexed_of_tokenize {line : String} {ts : List Token} (h : tokenize line = .ok ts) :
    Token.Lexed none ts := by
  have hd : Lexeme.DenotesEach ((none : Option Token).any Token.endsOperand) _ ts :=
    tokenize_eq_ok_iff.1 h
  exact hd.lexed (Lexeme.maximal_ofText _) nofun

theorem tokenize_of_spelled {line : String} {ts : List Token} (h : Token.Lexed none ts)
    (hs : Token.Spelled ts line.toList) : tokenize line = .ok ts := by
  rw [tokenize, hs.squeeze h.typed]
  exact h.tokens_flatMap

/-- What the tokens of a line look like, whatever was read before, and that they are read again from
their spellings, which no blanks need to keep apart. -/
theorem Scanner.tokenize_image (s : Scanner) (ts : List Token) :
    ((∃ line, (s.tokenize line).1 = .ok ts) ↔ Token.Lexed none ts) ∧
    (Token.Lexed none ts → ∀ line : String, Token.Spelled ts line.toList →
      (s.tokenize line).1 = .ok ts) := by
  simp only [s.tokenize_fst]
  refine ⟨⟨?_, fun h ↦ ?_⟩, fun h line hs ↦ tokenize_of_spelled h hs⟩
  · rintro ⟨line, h⟩
    exact lexed_of_tokenize h
  · refine ⟨String.ofList (ts.flatMap (·.spelling.toList)), tokenize_of_spelled h ?_⟩
    rw [String.toList_ofList]
    exact Token.spelled_flatMap ts

/-- The first sign is not taken for a difference, whatever was read before. -/
theorem Scanner.tokenize_spaced_signs :
    Token.Lexed none [.unary .sub, .num 7, .binary .sub, .word "1x"] ∧
      (Scanner.tokenize ⟨some .rparen⟩ "- 7-\t1x").1 =
        .ok [.unary .sub, .num 7, .binary .sub, .word "1x"] := by
  obtain ⟨himage, hread⟩ :=
    Scanner.tokenize_image ⟨some .rparen⟩ [.unary .sub, .num 7, .binary .sub, .word "1x"]
  have hl := himage.1 ⟨"-007 - 1x", rfl⟩
  have hblank : ∀ c ∈ [' '], isBlank c = true := List.forall_mem_singleton.2 rfl
  have htab : ∀ c ∈ ['\t'], isBlank c = true := List.forall_mem_singleton.2 rfl
  have hword : Token.Spelled [.word "1x"] (['\t'] ++ ("1x".toList ++ [])) :=
    .cons htab (.nil nofun)
  have hsub : Token.Spelled [.binary .sub, .word "1x"] ([] ++ (['-'] ++ ['\t', '1', 'x'])) :=
    .cons nofun hword
  have hnum : Token.Spelled [.num 7, .binary .sub, .word "1x"]
      ([' '] ++ (['7'] ++ ['-', '\t', '1', 'x'])) := .cons hblank hsub
  have hs : Token.Spelled [.unary .sub, .num 7, .binary .sub, .word "1x"]
      ([] ++ (['-'] ++ [' ', '7', '-', '\t', '1', 'x'])) := .cons nofun hnum
  exact ⟨hl, hread hl "- 7-\t1x" hs⟩

end Calculator
