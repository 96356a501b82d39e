import Calculator.Grammar

namespace Calculator

namespace Op

def before : Op → Op → Op
  | .sub, .add => .sub
  | .sub, .sub => .add
  | _, op => op

variable {op s : Op}

theorem before_additive (hop : op.Additive) (hs : s.Additive) : (op.before s).Additive := by
  rcases hop with rfl | rfl <;> rcases hs with rfl | rfl <;> simp [before, Additive]

theorem applySign_before (hop : op.Additive) (hs : s.Additive) (v : Int) :
    (op.before s).applySign v = s.applySign v >>= op.applySign := by
  rcases hop with rfl | rfl <;> rcases hs with rfl | rfl
  · rfl
  · rfl
  · rfl
  · change Except.ok v = Except.ok (- -v)
    rw [Int.neg_neg]

theorem apply_before (hop : op.Additive) (hs : s.Additive) (v w : Int) :
    (op.before s).apply v w = s.applySign w >>= fun w ↦ op.apply v w := by
  rcases hop with rfl | rfl <;> rcases hs with rfl | rfl
  · rfl
  · rfl
  · rfl
  · change Except.ok (v + w) = Except.ok (v - -w)
    rw [Int.sub_neg]

/-- A sign can be drawn out of the first operand of a product or of a quotient, whether or not the
quotient is defined. -/
theorem apply_applySign (hop : op.Multiplicative) (hs : s.Additive) (v w : Int) :
    (s.applySign v >>= fun v ↦ op.apply v w) = op.apply v w >>= s.applySign := by
  rcases hs with rfl | rfl
  · exact (bind_pure (op.apply v w)).symm
  · rcases hop with rfl | rfl
    · change Except.ok (-v * w) = Except.ok (-(v * w))
      rw [Int.neg_mul]
    · change (if w = 0 then _ else Except.ok ((-v).tdiv w)) = _
      by_cases hw : w = 0
      · rw [apply, if_pos hw, if_pos hw]
        rfl
      · rw [apply, if_neg hw, if_neg hw, Int.neg_tdiv]
        rfl

end Op

namespace Token

/-- What a token becomes when it takes in a unary sign directly behind it. Only signs can. -/
def takeSign (s : Op) : Token → Option Token
  | .unary op => some (.unary (op.before s))
  | .binary .add => some (.binary (Op.before .add s))
  | .binary .sub => some (.binary (Op.before .sub s))
  | _ => none

def fuse (t : Token) : List Token → List Token
  | .unary s :: ts =>
    match t.takeSign s with
    | some u => u :: ts
    | none => t :: .unary s :: ts
  | ts => t :: ts

/-- A row of tokens with one sign in place of each run of signs. -/
def collapse (ts : List Token) : List Token := ts.foldr fuse []

theorem collapse_cons (t : Token) (ts : List Token) : collapse (t :: ts) = fuse t (collapse ts) :=
  rfl

theorem fuse_unary (op s : Op) (ts : List Token) :
    fuse (.unary op) (.unary s :: ts) = .unary (op.before s) :: ts := rfl

theorem fuse_binary {op : Op} (h : op.Additive) (s : Op) (ts : List Token) :
    fuse (.binary op) (.unary s :: ts) = .binary (op.before s) :: ts := by
  rcases h with rfl | rfl <;> rfl

theorem fuse_of_ne_unary {ts : List Token} (h : ∀ s us, ts ≠ .unary s :: us) (t : Token) :
    fuse t ts = t :: ts := by
  unfold fuse
  split
  · next s us => exact absurd rfl (h s us)
  · rfl

theorem fuse_of_takeSign {t : Token} (h : ∀ s, t.takeSign s = none) (ts : List Token) :
    fuse t ts = t :: ts := by
  unfold fuse
  split
  · next s us => rw [h s]
  · rfl

theorem takeSign_multiplicative {op : Op} (h : op.Multiplicative) (s : Op) :
    takeSign s (.binary op) = none := by
  rcases h with rfl | rfl <;> rfl

theorem fuse_append {us : List Token} (h : ∀ s vs, us ≠ .unary s :: vs) (t : Token)
    (ts : List Token) : fuse t (ts ++ us) = fuse t ts ++ us := by
  cases ts with
  | nil => exact fuse_of_ne_unary h t
  | cons u ts =>
    cases u with
    | unary s =>
      simp only [List.cons_append, fuse]
      cases t.takeSign s <;> rfl
    | num | var | word | binary | lparen | rparen => rfl

theorem collapse_append {us : List Token} (h : ∀ s vs, collapse us ≠ .unary s :: vs)
    (ts : List Token) : collapse (ts ++ us) = collapse ts ++ collapse us := by
  induction ts with
  | nil => rfl
  | cons t ts ih =>
    rw [List.cons_append, collapse_cons, collapse_cons, ih]
    exact fuse_append h t (collapse ts)

theorem fuse_binary_ne_unary (op : Op) (ts : List Token) (s : Op) (us : List Token) :
    fuse (.binary op) ts ≠ .unary s :: us := by
  unfold fuse
  split
  · next s' ts =>
    cases op <;> exact nofun
  · exact nofun

theorem collapse_binary (op : Op) (ts us : List Token) :
    collapse (ts ++ .binary op :: us) = collapse ts ++ fuse (.binary op) (collapse us) := by
  have h : ∀ s vs, collapse (.binary op :: us) ≠ .unary s :: vs :=
    fuse_binary_ne_unary op (collapse us)
  rw [collapse_append h, collapse_cons]

end Token

structure Expr.Agrees (a b : Expr) : Prop where
  names : a.names = b.names
  value : ∀ vars, a.value vars = b.value vars

namespace Expr.Agrees

theorem refl (a : Expr) : a.Agrees a := ⟨rfl, fun _ ↦ rfl⟩

theorem trans {a b c : Expr} (h : a.Agrees b) (h' : b.Agrees c) : a.Agrees c :=
  ⟨h.names.trans h'.names, fun vars ↦ (h.value vars).trans (h'.value vars)⟩

theorem unary {a b : Expr} (op : Op) (h : a.Agrees b) : (Expr.unary op a).Agrees (.unary op b) :=
  ⟨h.names, fun vars ↦ by rw [Expr.value, Expr.value, h.value]⟩

theorem binary {a b a' b' : Expr} (op : Op) (h : a.Agrees a') (h' : b.Agrees b') :
    (Expr.binary op a b).Agrees (.binary op a' b') :=
  ⟨by rw [Expr.names, Expr.names, h.names, h'.names],
    fun vars ↦ by rw [Expr.value, Expr.value, h.value, h'.value]⟩

theorem unary_before {op s : Op} (hop : op.Additive) (hs : s.Additive) (a : Expr) :
    (Expr.unary op (.unary s a)).Agrees (.unary (op.before s) a) := by
  refine ⟨rfl, fun vars ↦ ?_⟩
  rw [Expr.value, Expr.value, Expr.value, bind_assoc]
  exact congrArg _ (funext fun v ↦ (Op.applySign_before hop hs v).symm)

theorem binary_before {op s : Op} (hop : op.Additive) (hs : s.Additive) (a b : Expr) :
    (Expr.binary op a (.unary s b)).Agrees (.binary (op.before s) a b) := by
  refine ⟨rfl, fun vars ↦ ?_⟩
  rw [Expr.value, Expr.value, Expr.value]
  refine congrArg _ (funext fun v ↦ ?_)
  rw [bind_assoc]
  exact congrArg _ (funext fun w ↦ (Op.apply_before hop hs v w).symm)

/-- A sign in front of the first factor goes in front of the term. -/
theorem binary_unary {op s : Op} (hop : op.Multiplicative) (hs : s.Additive) (a b : Expr) :
    (Expr.binary op (.unary s a) b).Agrees (.unary s (.binary op a b)) := by
  refine ⟨rfl, fun vars ↦ ?_⟩
  simp only [Expr.value, bind_assoc]
  refine congrArg _ (funext fun v ↦ ?_)
  obtain ⟨v', hv⟩ : ∃ v', s.applySign v = .ok v' := by
    rcases hs with rfl | rfl
    · exact ⟨v, rfl⟩
    · exact ⟨-v, rfl⟩
  rw [hv]
  change (b.value vars >>= fun w ↦ op.apply v' w) = _
  refine congrArg _ (funext fun w ↦ ?_)
  rw [← Op.apply_applySign hop hs, hv]
  rfl

end Expr.Agrees

theorem Reads.ne_unary {p : Part} {w : List Token} {e : Expr} (h : Reads .tokens p w e)
    (hp : p = .atom ∨ p = .power) (s : Op) (us : List Token) : w ≠ .unary s :: us := by
  induction h generalizing us with
  | num hw | var hw => cases hw; exact nofun
  | parens hw ih => exact nofun
  | atom hw ih => exact ih (.inl rfl) us
  | pow ha hb iha ihb =>
    intro he
    rcases List.append_eq_cons_iff.1 he with ⟨_, h⟩ | ⟨v, h, _⟩
    · cases h
    · exact iha (.inl rfl) v h
  | power | sign | factor | mul | term | add => rcases hp with hp | hp <;> cases hp

/-- The sign at the beginning of a factor or a term can be taken off, and then stands in front of
the whole. -/
theorem Reads.peel {p : Part} {w us : List Token} {e : Expr} {s : Op} (h : Reads .tokens p w e)
    (hp : p = .factor ∨ p = .term) (hw : w = .unary s :: us) :
    s.Additive ∧ ∃ e', Reads .tokens p us e' ∧ e.Agrees (.unary s e') := by
  induction h generalizing us with
  | power h ih => exact absurd hw (h.ne_unary (.inr rfl) s us)
  | sign hop h ih =>
    cases hw
    exact ⟨hop, _, h, .refl _⟩
  | factor h ih =>
    obtain ⟨hs, e', h', ha⟩ := ih (.inl rfl) hw
    exact ⟨hs, e', .factor h', ha⟩
  | @mul op v w a b hop ha hb iha ihb =>
    rcases List.append_eq_cons_iff.1 hw with ⟨_, h⟩ | ⟨v', hv, rfl⟩
    · cases h
    · obtain ⟨hs, a', ha', hag⟩ := iha (.inr rfl) hv
      exact ⟨hs, _, .mul hop ha' hb, (hag.binary op (.refl b)).trans (.binary_unary hop hs a' b)⟩
  | num | var | parens | atom | pow | term | add => rcases hp with hp | hp <;> cases hp

open Token in
/-- Runs of signs can be collapsed: what is left has the same shape, the same names and the same
value. A run behind a binary sign goes into that sign, even though it belonged to the first factor
of the term there. -/
theorem Reads.collapse {p : Part} {w : List Token} {e : Expr} (h : Reads .tokens p w e) :
    ∃ e', Reads .tokens p (collapse w) e' ∧ e.Agrees e' := by
  induction h with
  | num hw => cases hw; exact ⟨_, .num rfl, .refl _⟩
  | var hw => cases hw; exact ⟨_, .var rfl, .refl _⟩
  | @parens w e hw ih =>
    obtain ⟨e', h', ha⟩ := ih
    have hr : ∀ s us, Token.collapse [.rparen] ≠ .unary s :: us := by
      intro s us h
      cases h
    refine ⟨e', ?_, ha⟩
    rw [Spelling.tokens_lparen, Spelling.tokens_rparen, List.cons_append, collapse_cons,
      collapse_append hr, fuse_of_takeSign fun _ ↦ rfl]
    exact .parens h'
  | atom hw ih => exact ih.imp fun _ h ↦ ⟨.atom h.1, h.2⟩
  | pow ha hb iha ihb =>
    obtain ⟨a', ha', haa⟩ := iha
    obtain ⟨b', hb', hbb⟩ := ihb
    refine ⟨.binary .pow a' b', ?_, haa.binary _ hbb⟩
    rw [Spelling.tokens_binary, collapse_binary, fuse_of_takeSign fun _ ↦ rfl]
    exact .pow ha' hb'
  | power hw ih => exact ih.imp fun _ h ↦ ⟨.power h.1, h.2⟩
  | @sign op w e hop hw ih =>
    obtain ⟨e', h', ha⟩ := ih
    change ∃ e'', Reads .tokens .factor (fuse (.unary op) (Token.collapse w)) e'' ∧ _
    by_cases hs : ∃ s us, Token.collapse w = .unary s :: us
    · obtain ⟨s, us, hs⟩ := hs
      obtain ⟨hsa, e'', h'', ha'⟩ := h'.peel (.inl rfl) hs
      rw [hs, fuse_unary]
      exact ⟨_, .sign (Op.before_additive hop hsa) h'',
        ((ha.trans ha').unary op).trans (.unary_before hop hsa e'')⟩
    · rw [fuse_of_ne_unary fun s us h ↦ hs ⟨s, us, h⟩]
      exact ⟨_, .sign hop h', ha.unary op⟩
  | factor hw ih => exact ih.imp fun _ h ↦ ⟨.factor h.1, h.2⟩
  | mul hop ha hb iha ihb =>
    obtain ⟨a', ha', haa⟩ := iha
    obtain ⟨b', hb', hbb⟩ := ihb
    refine ⟨.binary _ a' b', ?_, haa.binary _ hbb⟩
    rw [Spelling.tokens_binary, collapse_binary, fuse_of_takeSign (takeSign_multiplicative hop)]
    exact .mul hop ha' hb'
  | term hw ih => exact ih.imp fun _ h ↦ ⟨.term h.1, h.2⟩
  | @add op v w a b hop ha hb iha ihb =>
    obtain ⟨a', ha', haa⟩ := iha
    obtain ⟨b', hb', hbb⟩ := ihb
    rw [Spelling.tokens_binary, collapse_binary]
    by_cases hs : ∃ s us, Token.collapse w = .unary s :: us
    · obtain ⟨s, us, hs⟩ := hs
      obtain ⟨hsa, b'', h'', hb''⟩ := hb'.peel (.inr rfl) hs
      rw [hs, fuse_binary hop]
      exact ⟨_, .add (Op.before_additive hop hsa) ha' h'',
        (haa.binary op (hbb.trans hb'')).trans (.binary_before hop hsa a' b'')⟩
    · rw [fuse_of_ne_unary fun s us h ↦ hs ⟨s, us, h⟩]
      exact ⟨_, .add hop ha' hb', haa.binary op hbb⟩

end Calculator
