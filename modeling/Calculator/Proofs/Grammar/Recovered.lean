import Calculator.Proofs.Grammar.Closure
import Calculator.Proofs.Grammar.Spelled

namespace Calculator

theorem Op.not_additive {op : Op} (h : op.Multiplicative ∨ op = .pow) : ¬ op.Additive := by
  rcases h with (rfl | rfl) | rfl <;> exact nofun

namespace Lexeme

variable {b : Bool} {l : Lexeme} {t : Token}

def Writes (l : Lexeme) : Token → Prop
  | .num n => ∃ cs m, l = run cs ∧ readNat? cs = some m ∧ n = Int.ofNat m
  | .var name => ∃ cs, l = run cs ∧ isIdentifier cs = true ∧ name = String.ofList cs
  | .word text => ∃ cs, l = run cs ∧ text = String.ofList cs
  | .unary op => op.Additive ∧ ∃ cs, l = signs cs
  | .binary op => (op.Additive ∧ ∃ cs, l = signs cs) ∨ (¬ op.Additive ∧ l = mark op.symbol)
  | .lparen => l = mark '('
  | .rparen => l = mark ')'

theorem writes_of_token (hp : l.Proper) (h : l.token b = .ok t) : l.Writes t := by
  cases (token_eq_ok_iff hp).1 h with
  | name ha => exact ⟨_, rfl, isIdentifier_iff.2 ⟨hp.1, ha⟩, rfl⟩
  | number hd =>
    have hn := readNat?_eq_some_iff.2 ⟨hp.1, hd, ofDigitChars_eq_decimal _⟩
    exact ⟨_, _, rfl, hn, rfl⟩
  | word => exact ⟨_, rfl, rfl⟩
  | binarySign ha => exact .inl ⟨ha.additive, _, rfl⟩
  | unarySign ha => exact ⟨ha.additive, _, rfl⟩
  | product => exact .inr ⟨Op.not_additive (.inl (.inl rfl)), rfl⟩
  | quotient => exact .inr ⟨Op.not_additive (.inl (.inr rfl)), rfl⟩
  | power => exact .inr ⟨Op.not_additive (.inr rfl), rfl⟩
  | opening | closing => rfl

def Written (b : Bool) (cs : List Char) (ts : List Token) : Prop :=
  ∃ ls, (∀ l ∈ ls, Proper l) ∧ tokens b ls = .ok ts ∧ ls.flatMap text = cs

theorem Written.nil {cs : List Char} (h : Written b cs []) : cs = [] := by
  obtain ⟨ls, _, ht, rfl⟩ := h
  cases ls with
  | nil => rfl
  | cons l ls =>
    obtain ⟨t, ts, _, _, h⟩ := tokens_cons_eq_ok_iff.1 ht
    cases h

theorem Written.cons {cs : List Char} {ts : List Token} (h : Written b cs (t :: ts)) :
    ∃ l ds, cs = text l ++ ds ∧ Proper l ∧ Writes l t ∧ Written t.endsOperand ds ts := by
  obtain ⟨ls, hp, ht, rfl⟩ := h
  cases ls with
  | nil => cases ht
  | cons l ls =>
    obtain ⟨hl, hls⟩ := List.forall_mem_cons.1 hp
    obtain ⟨t', ts', ht, hts, he⟩ := tokens_cons_eq_ok_iff.1 ht
    cases he
    exact ⟨l, _, rfl, hl, writes_of_token hl ht, ls, hls, hts, rfl⟩

theorem Written.append {cs : List Char} {ts us : List Token} (h : Written b cs (ts ++ us)) :
    ∃ c d, cs = c ++ d ∧ Written b c ts ∧ Written (Token.after b ts) d us := by
  obtain ⟨ls, hp, ht, rfl⟩ := h
  obtain ⟨ms, ns, rfl, hm, hn⟩ := tokens_eq_append ht
  obtain ⟨hpm, hpn⟩ := List.forall_mem_append.1 hp
  exact ⟨_, _, List.flatMap_append, ⟨ms, hpm, hm, rfl⟩, ns, hpn, hn, rfl⟩

theorem Written.additive {cs : List Char} {ts : List Token} (h : Written b cs ts) {op : Op}
    (hop : .unary op ∈ ts) : op.Additive := by
  obtain ⟨us, vs, rfl⟩ := List.append_of_mem hop
  obtain ⟨_, _, _, _, h⟩ := h.append
  obtain ⟨_, _, _, _, ⟨hop, _⟩, _⟩ := h.cons
  exact hop

theorem written_of_tokenize {line : String} {ts : List Token} (h : tokenize line = .ok ts) :
    Written false (Text.squeeze line.toList) ts :=
  ⟨_, (maximal_ofText _).proper, h, flatMap_text_ofText _⟩

end Lexeme

theorem exists_symbol_of_isSign {c : Char} (h : isSign c = true) :
    ∃ op : Op, op.Additive ∧ c = op.symbol := by
  rcases isSign_iff.1 h with rfl | rfl
  · exact ⟨.add, .inl rfl, rfl⟩
  · exact ⟨.sub, .inr rfl, rfl⟩

namespace Fits

variable {v w cs : List Char}

theorem append_signs {p : Part}
    (hp : ∀ (op : Op) (w : List Char), op.Additive → Fits .characters p w →
      Fits .characters p (op.symbol :: w))
    (hs : ∀ c ∈ cs, isSign c = true) (h : Fits .characters p w) :
    Fits .characters p (cs ++ w) := by
  induction cs with
  | nil => exact h
  | cons c cs ih =>
    obtain ⟨hc, hcs⟩ := List.forall_mem_cons.1 hs
    obtain ⟨op, hop, rfl⟩ := exists_symbol_of_isSign hc
    exact hp op _ hop (ih hcs)

/-- Behind an expression the first sign of a run is binary and the others belong to the term. -/
theorem add_signs (hne : cs ≠ []) (hs : ∀ c ∈ cs, isSign c = true)
    (hv : Fits .characters .sum v) (hw : Fits .characters .term w) :
    Fits .characters .sum (v ++ (cs ++ w)) := by
  cases cs with
  | nil => exact absurd rfl hne
  | cons c cs =>
    obtain ⟨hc, hcs⟩ := List.forall_mem_cons.1 hs
    obtain ⟨op, hop, rfl⟩ := exists_symbol_of_isSign hc
    exact add hop hv (append_signs (fun _ _ ↦ sign_term) hcs hw)

end Fits

/-- If the tokens of a text are an expression, so is the text. -/
theorem Reads.characters {p : Part} {ts : List Token} {e : Expr} (h : Reads .tokens p ts e)
    {b : Bool} {cs : List Char} (hw : Lexeme.Written b cs ts) : Fits .characters p cs := by
  induction h generalizing b cs with
  | num ht =>
    cases ht
    obtain ⟨_, ds, rfl, _, ⟨cs, m, rfl, hm, rfl⟩, hd⟩ := hw.cons
    rw [hd.nil, List.append_nil]
    exact ⟨_, .num (congrArg (Option.map Int.ofNat) hm)⟩
  | var ht =>
    cases ht
    obtain ⟨_, ds, rfl, _, ⟨cs, rfl, hi, rfl⟩, hd⟩ := hw.cons
    rw [hd.nil, List.append_nil]
    exact ⟨_, .var ⟨hi, rfl⟩⟩
  | parens h ih =>
    obtain ⟨_, ds, rfl, _, rfl, hd⟩ := hw.cons
    obtain ⟨cs, ds, rfl, hc, hr⟩ := hd.append
    obtain ⟨_, ds, rfl, _, rfl, hn⟩ := hr.cons
    rw [hn.nil, List.append_nil]
    exact (ih hc).parens
  | atom h ih => exact (ih hw).imp fun _ h ↦ .atom h
  | pow ha hb iha ihb =>
    obtain ⟨cs, ds, rfl, hc, ho⟩ := hw.append
    obtain ⟨_, ds, rfl, _, ⟨hop, _⟩ | ⟨_, rfl⟩, hd⟩ := ho.cons
    · exact absurd hop (Op.not_additive (.inr rfl))
    · obtain ⟨a, ha⟩ := iha hc
      obtain ⟨b, hb⟩ := ihb hd
      exact ⟨_, .pow ha hb⟩
  | power h ih => exact (ih hw).imp fun _ h ↦ .power h
  | sign hop h ih =>
    obtain ⟨_, ds, rfl, hp, ⟨_, cs, rfl⟩, hd⟩ := hw.cons
    exact .append_signs (fun _ _ ↦ .sign) hp.2 (ih hd)
  | factor h ih => exact (ih hw).term_of_factor
  | mul hop ha hb iha ihb =>
    obtain ⟨cs, ds, rfl, hc, ho⟩ := hw.append
    obtain ⟨_, ds, rfl, _, ⟨hop', _⟩ | ⟨_, rfl⟩, hd⟩ := ho.cons
    · exact absurd hop' (Op.not_additive (.inl hop))
    · exact .mul hop (iha hc) (ihb hd)
  | term h ih => exact (ih hw).sum_of_term
  | add hop ha hb iha ihb =>
    obtain ⟨cs, ds, rfl, hc, ho⟩ := hw.append
    obtain ⟨_, ds, rfl, hp, ⟨_, cs, rfl⟩ | ⟨hop', _⟩, hd⟩ := ho.cons
    · exact .add_signs hp.1 hp.2 (iha hc) (ihb hd)
    · exact absurd hop hop'

end Calculator
