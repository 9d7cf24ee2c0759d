import Mathlib.Data.List.Chain
import Costing.Proofs.Formula.Parse
import Costing.Proofs.Formula.Scan

/-!
# Formula — how tokens stand in a text

A scanned text is blanks and tokens as they are written.  `Written kind text chars rest` says that a token
of a kind with a text is written as `chars` in front of `rest`; `WrittenAll cs ts` that `cs` is the tokens
`ts` in order, with blanks between them.  Names and numbers are written as long as they go on, so what
follows a name is no character of one.

* `writtenAll_of_scan`: a text that is scanned is its tokens as they are written.
* `Derives.isChain`: no number stands right before a name in tokens that derive a phrase.
* `Derives.exists_name`: every name that a tree mentions is the text of a token.
-/

namespace Costing.Formula

/-! ### One token -/

/-- How a token stands in a text, before what follows it. -/
inductive Written : TokenKind → String → List Char → List Char → Prop where
  | opening {rest : List Char} : Written .paren "(" ['('] rest
  | closing {rest : List Char} : Written .paren ")" [')'] rest
  | comma {rest : List Char} : Written .comma "," [','] rest
  /-- A string, from its quote to the first such quote that no backslash is before. -/
  | string {quote : Char} {inner body rest : List Char} :
      quote = '"' ∨ quote = '\'' → takeQuoted quote (inner ++ quote :: rest) = some (body, rest) →
      Written .string (String.ofList body) (quote :: (inner ++ [quote])) rest
  | number {c : Char} {cs rest : List Char} :
      (∀ d ∈ c :: cs, d.isDigit ∨ d = '.') → Written .number (String.ofList (c :: cs)) (c :: cs) rest
  /-- A word, a name or an operator. -/
  | word {c : Char} {cs rest : List Char} :
      (∀ d ∈ c :: cs, isNameChar d) → (∀ d ∈ rest.head?, isNameChar d = false) →
      Written (wordLexeme (c :: cs)).kind (wordLexeme (c :: cs)).text (c :: cs) rest
  /-- An operator that is no word. -/
  | operator {c : Char} {cs rest : List Char} :
      (∀ d ∈ c :: cs, isNameChar d = false ∧ IsPlain d) →
      Written .operator (String.ofList (c :: cs)) (c :: cs) rest

/-- A number is written with digits and points. -/
theorem IsDecimal.mem {cs : List Char} (h : IsDecimal cs) : ∀ d ∈ cs, d.isDigit ∨ d = '.' := by
  obtain ⟨whole, hwhole, rfl | ⟨fraction, rfl, hfraction⟩⟩ := h
  · exact fun d hd => .inl (hwhole d hd)
  · rw [List.forall_mem_append, List.forall_mem_cons]
    exact ⟨fun d hd => .inl (hwhole d hd), .inr rfl, fun d hd => .inl (hfraction d hd)⟩

/-- What is taken for a token is how the token is written. -/
theorem Taken.written {slice rest : List Char} {l : Lexeme} (h : Taken slice rest l) :
    Written l.kind l.text slice rest := by
  cases h with
  | paren hc =>
      rcases hc with rfl | rfl
      · exact .opening
      · exact .closing
  | comma => exact .comma
  | string hquote hbody => exact .string hquote hbody
  | number _ hdecimal => exact .number hdecimal.mem
  | word hc hds hends => exact .word (List.forall_mem_cons.2 ⟨isNameChar_of_isNameStart hc, hds⟩) hends
  | @long c d _ hlong =>
      exact .operator fun x hx => not_isNameChar_of_mem_operators (.inr ⟨[c, d], hlong, hx⟩)
  | @short c _ hc =>
      rw [Char.toString_eq_singleton, String.singleton_eq_ofList]
      refine .operator fun d hd => ?_
      rw [List.mem_singleton.1 hd]
      exact not_isNameChar_of_mem_operators (.inl hc)

/-! ### All tokens -/

/-- Characters that are tokens in order, with blanks between them. -/
inductive WrittenAll : List Char → List Token → Prop where
  | nil : WrittenAll [] []
  | blank {c : Char} {cs : List Char} {ts : List Token} :
      Text.isBlank c → WrittenAll cs ts → WrittenAll (c :: cs) ts
  | token {t : Token} {c : Char} {cs rest : List Char} {ts : List Token} :
      Written t.kind t.text (c :: cs) rest → WrittenAll rest ts → WrittenAll (c :: cs ++ rest) (t :: ts)

theorem Scans.writtenAll {position : Nat} {cs : List Char} {ts : List Token} (h : Scans position cs ts) :
    WrittenAll cs ts := by
  induction h with
  | nil => exact .nil
  | blank hblank _ ih => exact .blank hblank ih
  | token _ hnext _ ih => exact .token (taken_of_nextLexeme hnext).written ih

/-- **A text that is scanned** is its tokens as they are written. -/
theorem writtenAll_of_scan {formula : String} {ts : List Token} (h : Token.scan formula = .ok ts) :
    WrittenAll formula.toList ts :=
  (scans_of_scanFrom h).writtenAll

/-- What a formula with a tree is: tokens as they are written, which derive the tree. -/
theorem exists_of_parseFormula {formula : String} {e : Expr} (h : parseFormula formula = .ok e) :
    ∃ ts, WrittenAll formula.toList ts ∧ (∀ t ∈ ts, Spelled t.kind t.text) ∧
      Derives ts (.tree .expression e) := by
  obtain ⟨ts, hscan, hparse⟩ := exists_of_bind_eq_ok h
  exact ⟨ts, writtenAll_of_scan hscan, scan_spelled hscan, derives_of_parse hparse⟩

/-! ### Tokens that derive a phrase -/

/-- What may stand next to each other: no name comes right after a number. -/
def Neighbours (a b : Token) : Prop :=
  a.kind = .number → b.kind ≠ .identifier

theorem isChain_append_cons {left right : List Token} {t : Token} (hleft : left.IsChain Neighbours)
    (hright : right.IsChain Neighbours) (hnumber : t.kind ≠ .number) (hname : t.kind ≠ .identifier) :
    (left ++ t :: right).IsChain Neighbours := by
  refine hleft.append (List.isChain_cons.2 ⟨fun _ _ h => absurd h hnumber, hright⟩) ?_
  intro _ _ u hu _
  cases hu
  exact hname

/-- No number stands right before a name. -/
theorem Derives.isChain {ts : List Token} {p : Phrase} (h : Derives ts p) : ts.IsChain Neighbours := by
  have hne {t : Token} {kind other : TokenKind} {text : String} (his : t.is kind text)
      (hkind : kind ≠ other) : t.kind ≠ other := (Token.is_iff.1 his).1 ▸ hkind
  induction h with
  | operand _ ih | primary _ ih | lastArgument _ ih => exact ih
  | binary _ his _ _ ihleft ihright =>
      exact isChain_append_cons ihleft ihright (hne his (by decide)) (hne his (by decide))
  | argument _ his _ ihfirst ihrest =>
      exact isChain_append_cons ihfirst ihrest (hne his (by decide)) (hne his (by decide))
  | unary his _ _ ih =>
      exact List.isChain_cons.2 ⟨fun _ _ h => absurd h (hne his (by decide)), ih⟩
  | number | string | literal | identifier => exact List.isChain_singleton _
  | call hkind hopen hclose =>
      refine List.isChain_cons.2 ⟨fun _ _ h => absurd (hkind.symm.trans h) (by decide), ?_⟩
      exact List.isChain_cons.2
        ⟨fun _ _ h => absurd h (hne hopen (by decide)), List.isChain_singleton _⟩
  | callWith hkind hopen _ hclose ih =>
      have hargs := isChain_append_cons ih .nil (hne hclose (by decide)) (hne hclose (by decide))
      have hopening := isChain_append_cons .nil hargs (hne hopen (by decide)) (hne hopen (by decide))
      exact List.isChain_cons.2 ⟨fun _ _ h => absurd (hkind.symm.trans h) (by decide), hopening⟩
  | parentheses hopen _ hclose ih =>
      have hinner := isChain_append_cons ih .nil (hne hclose (by decide)) (hne hclose (by decide))
      exact isChain_append_cons .nil hinner (hne hopen (by decide)) (hne hopen (by decide))

/-- The names that a phrase mentions. -/
def Phrase.mentions : Phrase → List String
  | .tree _ e => e.mentions
  | .arguments args => Expr.mentionsAll args

/-- **Every name that is mentioned** is the text of a token. -/
theorem Derives.exists_name {ts : List Token} {p : Phrase} (h : Derives ts p) {name : String}
    (hname : name ∈ p.mentions) : ∃ t ∈ ts, t.kind = .identifier ∧ t.text = name := by
  induction h with
  | operand _ ih | primary _ ih => exact ih hname
  | lastArgument _ ih =>
      rw [Phrase.mentions, Expr.mentionsAll, Expr.mentionsAll, List.append_nil] at hname
      exact ih hname
  | binary _ _ _ _ ihleft ihright | argument _ _ _ ihleft ihright =>
      rcases List.mem_append.1 hname with hname | hname
      · obtain ⟨t, ht, hkind⟩ := ihleft hname
        exact ⟨t, List.mem_append_left _ ht, hkind⟩
      · obtain ⟨t, ht, hkind⟩ := ihright hname
        exact ⟨t, List.mem_append_right _ (List.mem_cons_of_mem _ ht), hkind⟩
  | unary _ _ _ ih =>
      obtain ⟨t, ht, hkind⟩ := ih hname
      exact ⟨t, List.mem_cons_of_mem _ ht, hkind⟩
  | number | string | literal | call => cases hname
  | identifier hkind =>
      rw [Phrase.mentions, Expr.mentions, List.mem_singleton] at hname
      exact ⟨_, List.mem_cons_self, hkind, hname.symm⟩
  | callWith _ _ _ _ ih =>
      obtain ⟨t, ht, hkind⟩ := ih hname
      exact ⟨t, List.mem_cons_of_mem _ (List.mem_cons_of_mem _ (List.mem_append_left _ ht)), hkind⟩
  | parentheses _ _ _ ih =>
      obtain ⟨t, ht, hkind⟩ := ih hname
      exact ⟨t, List.mem_cons_of_mem _ (List.mem_append_left _ ht), hkind⟩

end Costing.Formula
