import Costing.Proofs.Formula.Grammar
import Costing.Proofs.Formula.Lexeme
import Costing.Proofs.Number.Numeral

/-!
# Formula — scanning

What the tokens of a text hold, and which characters are scanned to which tokens.

* `Scans`: a run of the scanner, step by step; scanning that gives tokens is one (`scans_of_scanFrom`).
* `scan_spelled`: a scanned number has no sign, and a scanned identifier is a word that is no operator.
* `Lexes`: some characters are scanned to some tokens, given what follows.  Runs of characters are
  scanned one after the other (`Lexes.append`).
* `Lexes.quoted`, `Lexes.word`, `Lexes.numeral`, `Lexes.operator` and others: a token that is written out
  is scanned as itself, before characters that cannot extend it.
-/

namespace Costing.Formula

/-! ### What a token holds -/

/-- A word that is no operator. -/
def IsName (text : String) : Prop :=
  ∃ c cs, text.toList = c :: cs ∧ isNameStart c ∧ (∀ d ∈ cs, isNameChar d) ∧ wordOperator? text = none

/-- What the text of a token of a kind is like. -/
def Spelled : TokenKind → String → Prop
  | .number, text => (Number.signed text.toList).1 = false
  | .identifier, text => IsName text
  | .string, _ | .operator, _ | .paren, _ | .comma, _ => True

theorem signed_cons {c : Char} (h : c ≠ '-') (cs : List Char) : (Number.signed (c :: cs)).1 = false := by
  unfold Number.signed
  split
  · next heq => exact absurd (List.cons.inj heq).1 h
  · rfl
  · rfl

theorem wordLexeme_spelled {c : Char} {cs : List Char} (hc : isNameStart c) (hcs : ∀ d ∈ cs, isNameChar d) :
    Spelled (wordLexeme (c :: cs)).kind (wordLexeme (c :: cs)).text := by
  unfold wordLexeme
  split
  · trivial
  · next hword => exact ⟨c, cs, String.toList_ofList, hc, hcs, hword⟩

theorem nextLexeme_spelled {position : Nat} {c : Char} {cs rest : List Char} {l : Lexeme}
    (h : nextLexeme position c cs = .ok (l, rest)) : Spelled l.kind l.text := by
  obtain ⟨ds, rfl⟩ := nextLexeme_suffix h
  cases nextLexeme_eq_ok_iff.1 h with
  | paren | comma | string | long | short => trivial
  | number hstart =>
      -- the number begins with a digit or a point
      have hc : c ≠ '-' := by rintro rfl; exact absurd hstart (by simp [startsNumber])
      show (Number.signed (String.ofList (c :: ds)).toList).1 = false
      rw [String.toList_ofList]
      exact signed_cons hc ds
  | word hc hds => exact wordLexeme_spelled hc hds

/-! ### Runs -/

theorem scanFrom_nil (position : Nat) : Token.scanFrom position [] = .ok [] := by
  rw [Token.scanFrom.eq_def]

theorem scanFrom_cons_of_isBlank {c : Char} (h : Text.isBlank c) (position : Nat) (cs : List Char) :
    Token.scanFrom position (c :: cs) = Token.scanFrom (position + c.utf8Size) cs := by
  rw [Token.scanFrom.eq_def]
  exact if_pos h

/-- What is taken off the front is the token before what is left. -/
theorem scanFrom_cons_of_ok {position : Nat} {c : Char} {ds rest : List Char} {l : Lexeme}
    (hblank : Text.isBlank c = false) (h : nextLexeme position c (ds ++ rest) = .ok (l, rest)) :
    Token.scanFrom position (c :: (ds ++ rest)) =
      (Token.scanFrom (position + byteCount (c :: ds)) rest).map (⟨l.kind, l.text, position⟩ :: ·) := by
  have htaken : (c :: (ds ++ rest)).take ((c :: (ds ++ rest)).length - rest.length) = c :: ds := by
    rw [← List.cons_append, List.length_append, Nat.add_sub_cancel, List.take_left]
  rw [Token.scanFrom.eq_def]
  dsimp only
  rw [if_neg (Bool.eq_false_iff.1 hblank)]
  split
  · next h' => rw [h] at h'; cases h'
  · next h' => rw [h] at h'; cases h'; rw [htaken]

theorem scanFrom_cons_of_error {position : Nat} {c : Char} {cs : List Char} {fault : Fault}
    (hblank : Text.isBlank c = false) (h : nextLexeme position c cs = .error fault) :
    Token.scanFrom position (c :: cs) = .error fault := by
  rw [Token.scanFrom.eq_def]
  dsimp only
  rw [if_neg (Bool.eq_false_iff.1 hblank)]
  split
  · next h' => rw [h] at h'; cases h'; rfl
  · next h' => rw [h] at h'; cases h'

/-- A run of the scanner: characters that start at a position are taken for blanks and tokens. -/
inductive Scans : Nat → List Char → List Token → Prop where
  | nil {position : Nat} : Scans position [] []
  | blank {position : Nat} {c : Char} {cs : List Char} {ts : List Token} :
      Text.isBlank c → Scans (position + c.utf8Size) cs ts → Scans position (c :: cs) ts
  | token {position : Nat} {c : Char} {ds rest : List Char} {l : Lexeme} {ts : List Token} :
      Text.isBlank c = false → nextLexeme position c (ds ++ rest) = .ok (l, rest) →
      Scans (position + byteCount (c :: ds)) rest ts →
      Scans position (c :: (ds ++ rest)) (⟨l.kind, l.text, position⟩ :: ts)

/-- **Scanning that gives tokens** is a run to the end. -/
theorem scans_of_scanFrom {position : Nat} {cs : List Char} {ts : List Token}
    (h : Token.scanFrom position cs = .ok ts) : Scans position cs ts := by
  induction hn : cs.length using Nat.strongRecOn generalizing position cs ts with
  | ind n ih =>
  cases cs with
  | nil => cases (scanFrom_nil position).symm.trans h; exact .nil
  | cons c cs =>
      cases hblank : Text.isBlank c with
      | true =>
          rw [scanFrom_cons_of_isBlank hblank] at h
          exact .blank hblank (ih _ (hn ▸ Nat.lt_succ_self _) h rfl)
      | false =>
          cases hnext : nextLexeme position c cs with
          | error fault => cases (scanFrom_cons_of_error hblank hnext).symm.trans h
          | ok taken =>
              obtain ⟨l, rest⟩ := taken
              have hlt : rest.length < n :=
                hn ▸ Nat.lt_succ_of_le (nextLexeme_suffix hnext).length_le
              obtain ⟨ds, rfl⟩ := nextLexeme_suffix hnext
              rw [scanFrom_cons_of_ok hblank hnext] at h
              cases hrest : Token.scanFrom (position + byteCount (c :: ds)) rest with
              | error fault => rw [hrest] at h; cases h
              | ok us =>
                  rw [hrest] at h
                  cases h
                  exact .token hblank hnext (ih _ hlt hrest rfl)

theorem Scans.spelled {position : Nat} {cs : List Char} {ts : List Token} (h : Scans position cs ts) :
    ∀ t ∈ ts, Spelled t.kind t.text := by
  induction h with
  | nil => exact nofun
  | blank _ _ ih => exact ih
  | token _ hnext _ ih => exact List.forall_mem_cons.2 ⟨nextLexeme_spelled hnext, ih⟩

/-- The tokens of a text are spelled as their kinds are. -/
theorem scan_spelled {formula : String} {ts : List Token} (h : Token.scan formula = .ok ts) :
    ∀ t ∈ ts, Spelled t.kind t.text :=
  (scans_of_scanFrom h).spelled

/-! ### Scanning one part after the other -/

/-- Wherever they stand before `rest`, the characters `cs` are scanned to tokens that `P` holds of. -/
def Lexes (cs rest : List Char) (P : List Token → Prop) : Prop :=
  ∀ position, ∃ ts next, P ts ∧
    Token.scanFrom position (cs ++ rest) = (Token.scanFrom next rest).map (ts ++ ·)

/-- What follows does not go on a word or a number. -/
def Ends (rest : List Char) : Prop :=
  ∀ c ∈ rest.head?, isNameChar c = false ∧ c ≠ '.'

theorem Ends.nil : Ends [] :=
  fun _ h => absurd h (Option.not_mem_none _)

theorem Ends.cons {c : Char} (hc : isNameChar c = false) (hpoint : c ≠ '.') (cs : List Char) :
    Ends (c :: cs) := by
  rintro d ⟨⟩
  exact ⟨hc, hpoint⟩

namespace Lexes

variable {cs ds rest : List Char} {P Q R : List Token → Prop}

theorem append (hc : Lexes cs (ds ++ rest) P) (hd : Lexes ds rest Q)
    (h : ∀ ts us, P ts → Q us → R (ts ++ us)) : Lexes (cs ++ ds) rest R := by
  intro position
  obtain ⟨ts, next, hts, hscan⟩ := hc position
  obtain ⟨us, last, hus, hrest⟩ := hd next
  refine ⟨ts ++ us, last, h ts us hts hus, ?_⟩
  rw [List.append_assoc, hscan, hrest]
  cases Token.scanFrom last rest with
  | error fault => rfl
  | ok vs => exact congrArg Except.ok (List.append_assoc ts us vs).symm

theorem mono (h : Lexes cs rest P) (himp : ∀ ts, P ts → Q ts) : Lexes cs rest Q := by
  intro position
  obtain ⟨ts, next, hts, hscan⟩ := h position
  exact ⟨ts, next, himp ts hts, hscan⟩

/-- Characters before the end are all that is scanned. -/
theorem scan {s : String} (h : Lexes s.toList [] P) : ∃ ts, P ts ∧ Token.scan s = .ok ts := by
  obtain ⟨ts, next, hts, hscan⟩ := h 0
  rw [List.append_nil, scanFrom_nil] at hscan
  exact ⟨ts, hts, hscan.trans (congrArg Except.ok (List.append_nil ts))⟩

/-! ### Single tokens -/

/-- One token, of a kind and with a text. -/
def IsToken (kind : TokenKind) (text : String) (ts : List Token) : Prop :=
  ∃ t, ts = [t] ∧ t.is kind text

theorem blank {c : Char} (h : Text.isBlank c) : Lexes [c] rest (· = []) := by
  intro position
  refine ⟨[], position + c.utf8Size, rfl, ?_⟩
  rw [List.singleton_append, scanFrom_cons_of_isBlank h]
  cases Token.scanFrom (position + c.utf8Size) rest <;> rfl

theorem cons_blank (h : Lexes cs rest P) : Lexes (' ' :: cs) rest P :=
  (blank (by decide)).append h fun _ _ hts hus => hts ▸ hus

theorem nil : Lexes [] rest (· = []) := by
  intro position
  refine ⟨[], position, rfl, ?_⟩
  rw [List.nil_append]
  cases Token.scanFrom position rest <;> rfl

theorem token {c : Char} {kind : TokenKind} {text : String} (hblank : Text.isBlank c = false)
    (h : ∀ position, nextLexeme position c (cs ++ rest) = .ok (⟨kind, text⟩, rest)) :
    Lexes (c :: cs) rest (IsToken kind text) := by
  intro position
  exact ⟨[⟨kind, text, position⟩], _, ⟨_, rfl, Token.is_iff.2 ⟨rfl, rfl⟩⟩,
    scanFrom_cons_of_ok hblank (h position)⟩

theorem opening : Lexes ['('] rest (IsToken .paren "(") :=
  token (by decide) fun _ => rfl

theorem closing : Lexes [')'] rest (IsToken .paren ")") :=
  token (by decide) fun _ => rfl

theorem comma : Lexes [','] rest (IsToken .comma ",") :=
  token (by decide) fun _ => rfl

/-- What stands in parentheses is scanned between them. -/
theorem parenthesized (h : Lexes cs (')' :: rest) P) :
    Lexes ('(' :: (cs ++ [')'])) rest fun ts => ∃ o us c,
      ts = o :: (us ++ [c]) ∧ o.is .paren "(" ∧ P us ∧ c.is .paren ")" := by
  have hinner : Lexes (cs ++ [')']) rest fun ts => ∃ us c, ts = us ++ [c] ∧ P us ∧ c.is .paren ")" := by
    refine h.append closing ?_
    rintro us _ hus ⟨c, rfl, hc⟩
    exact ⟨us, c, rfl, hus, hc⟩
  refine opening.append hinner ?_
  rintro _ _ ⟨o, rfl, ho⟩ ⟨us, c, rfl, hus, hc⟩
  exact ⟨o, us, c, rfl, ho, hus, hc⟩

/-- A binary operator before a blank. -/
theorem binaryOp (op : BinaryOp) : Lexes op.symbol.toList (' ' :: rest) (IsToken .operator op.symbol) := by
  cases op <;> exact token (by decide) fun _ => rfl

/-- A prefix operator before anything but an equals sign. -/
theorem unaryOp (op : UnaryOp) {c : Char} (hc : c ≠ '=') :
    Lexes op.symbol.toList (c :: cs) (IsToken .operator op.symbol) := by
  cases op with
  | negate => exact token (by decide) fun _ => rfl
  | not =>
      show Lexes ['!'] (c :: cs) (IsToken .operator "!")
      refine token (by decide) fun _ => ?_
      have hlong : ['!', c] ∉ longOperators := by simp [longOperators, hc]
      simp only [nextLexeme, takeOperator?, List.nil_append, hlong, if_false]
      rfl

/-! ### Strings -/

theorem takeQuoted_escape (s rest : List Char) :
    takeQuoted '"' (s.flatMap Expr.escape ++ '"' :: rest) = some (s, rest) := by
  induction s with
  | nil => rfl
  | cons c s ih =>
      rw [List.flatMap_cons, List.append_assoc, Expr.escape]
      split
      · rw [List.cons_append, List.cons_append, List.nil_append, takeQuoted, ih]
        rfl
      · next hplain =>
          rw [not_or] at hplain
          rw [List.cons_append, List.nil_append, takeQuoted, if_neg hplain.2, ih]
          · rfl
          · exact hplain.1

/-- A string in double quotes. -/
theorem quoted (s : String) : Lexes (Expr.quote s).toList rest (IsToken .string s) := by
  rw [Expr.quote, String.toList_ofList, List.cons_append]
  refine token (by decide) fun _ => ?_
  rw [List.append_assoc, List.singleton_append]
  simp [nextLexeme, takeQuoted_escape]

/-! ### Words and numbers -/

/-- A word that is no operator. -/
theorem word {name : String} (h : IsName name) (hrest : Ends rest) :
    Lexes name.toList rest (IsToken .identifier name) := by
  obtain ⟨c, cs, hname, hc, hcs, hword⟩ := h
  have hbounds := isNameStart_bounds hc
  have hlexeme : wordLexeme (c :: cs) = ⟨.identifier, name⟩ := by
    rw [wordLexeme, ← hname, String.ofList_toList, hword]
  rw [hname]
  refine token (not_isBlank_of_bounds (by omega)) fun position => nextLexeme_eq_ok_iff.2 ?_
  exact hlexeme ▸ .word hc hcs fun d hd => (hrest d hd).1

/-- A numeral. -/
theorem numeral {text : String} (h : Number.IsNumeral text.toList) (hrest : Ends rest) :
    Lexes text.toList rest (IsToken .number text) := by
  obtain ⟨c, ds, hds, hc⟩ := h.exists_cons
  obtain ⟨whole, -, hwhole, hform⟩ := h
  have hbounds := isDigit_bounds hc
  have hends : ∀ d ∈ rest.head?, d.isDigit = false ∧ d ≠ '.' := by
    refine fun d hd => ⟨?_, (hrest d hd).2⟩
    rw [Bool.eq_false_iff]
    intro hdigit
    exact absurd (isNameChar_of_isDigit hdigit) (Bool.eq_false_iff.1 (hrest d hd).1)
  have htaken : Taken (c :: ds) rest ⟨.number, String.ofList (c :: ds)⟩ :=
    .number (by simp [startsNumber, hc]) (hds ▸ ⟨whole, hwhole, hform⟩) hends
  rw [← hds, String.ofList_toList, hds] at htaken
  rw [hds]
  exact token (not_isBlank_of_bounds (by omega)) fun position => htaken.nextLexeme position

end Lexes

end Costing.Formula
