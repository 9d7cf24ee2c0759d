import Costing.Proofs.Formula.Written
import Costing.Validation.Scan

/-!
# Validation — what a formula's text tells before it is read

The parentheses and the words of a formula are checked on its text.  A text is its tokens as they are
written, so that both checks can be read off the tokens.

* `parensBalanced_of_parseFormula`: the parentheses of a formula with a tree balance.
* `mentionsWord_of_mem_mentions`: a name that a tree mentions stands in the text as a word.
* `isName_of_mem_mentions`: such a name is a name.
-/

namespace Costing.Validation

open Costing.Formula

/-! ### Characters -/

theorem isPlain_of_isBlank {c : Char} (h : Text.isBlank c) : IsPlain c := by
  refine ⟨?_, ?_, ?_, ?_⟩ <;> (rintro rfl; exact absurd h (by decide))

theorem isPlain_of_isNameChar {c : Char} (h : isNameChar c) : IsPlain c := by
  refine ⟨?_, ?_, ?_, ?_⟩ <;> (rintro rfl; exact absurd h (by decide))

theorem isPlain_of_isDigit {c : Char} (h : c.isDigit ∨ c = '.') : IsPlain c := by
  rcases h with h | rfl
  · exact isPlain_of_isNameChar (isNameChar_of_isDigit h)
  · simp [IsPlain]

/-! ### Parentheses -/

/-- Whether parentheses among tokens balance, `depth` of them open. -/
def closes : Nat → List Token → Bool
  | depth, [] => depth == 0
  | depth, t :: ts =>
    if t.is .paren "(" then closes (depth + 1) ts
    else if t.is .paren ")" then
      match depth with
      | 0 => false
      | depth + 1 => closes depth ts
    else closes depth ts

theorem closes_cons_of_kind {t : Token} (h : t.kind ≠ .paren) (depth : Nat) (ts : List Token) :
    closes depth (t :: ts) = closes depth ts := by
  simp [closes, Token.is, h]

theorem closes_opening {t : Token} (h : t.is .paren "(") (depth : Nat) (ts : List Token) :
    closes depth (t :: ts) = closes (depth + 1) ts := by
  cases depth <;> simp [closes, h]

theorem closes_closing {t : Token} (h : t.is .paren ")") (depth : Nat) (ts : List Token) :
    closes (depth + 1) (t :: ts) = closes depth ts := by
  have hnot : ¬ t.is .paren "(" := by
    rw [Token.is_iff] at h ⊢
    simp [h]
  simp [closes, hnot, h]

/-- **A phrase closes what it opens.** -/
theorem closes_of_derives {ts : List Token} {p : Phrase} (h : Derives ts p) (depth : Nat)
    (rest : List Token) : closes depth (ts ++ rest) = closes depth rest := by
  have hkind {t : Token} {kind : TokenKind} {text : String} (his : t.is kind text)
      (hparen : kind ≠ .paren) : t.kind ≠ .paren := (Token.is_iff.1 his).1 ▸ hparen
  induction h generalizing depth rest with
  | operand _ ih | primary _ ih | lastArgument _ ih => exact ih depth rest
  | binary _ his _ _ ihleft ihright =>
      rw [List.append_assoc, ihleft, List.cons_append, closes_cons_of_kind (hkind his nofun), ihright]
  | argument _ his _ ihfirst ihrest =>
      rw [List.append_assoc, ihfirst, List.cons_append, closes_cons_of_kind (hkind his nofun), ihrest]
  | unary his _ _ ih => rw [List.cons_append, closes_cons_of_kind (hkind his nofun), ih]
  | number h | string h | identifier h =>
      rw [List.singleton_append, closes_cons_of_kind (h ▸ nofun)]
  | literal his => rw [List.singleton_append, closes_cons_of_kind (hkind his nofun)]
  | call h hopen hclose =>
      rw [List.cons_append, List.cons_append, List.singleton_append, closes_cons_of_kind (h ▸ nofun),
        closes_opening hopen, closes_closing hclose]
  | callWith h hopen _ hclose ih =>
      rw [List.cons_append, List.cons_append, List.append_assoc, List.singleton_append,
        closes_cons_of_kind (h ▸ nofun), closes_opening hopen, ih, closes_closing hclose]
  | parentheses hopen _ hclose ih =>
      rw [List.cons_append, List.append_assoc, List.singleton_append, closes_opening hopen, ih,
        closes_closing hclose]

theorem balancedFrom_of_isPlain {cs : List Char} (h : ∀ c ∈ cs, IsPlain c) (depth : Nat) (rest : List Char) :
    balancedFrom depth none (cs ++ rest) = balancedFrom depth none rest := by
  induction cs with
  | nil => rfl
  | cons c cs ih =>
      obtain ⟨hc, hcs⟩ := List.forall_mem_cons.1 h
      obtain ⟨hdouble, hsingle, hopen, hclose⟩ := hc
      rw [List.cons_append, balancedFrom.eq_def]
      simp [hdouble, hsingle, hopen, hclose, ih hcs]

/-- The parentheses in a string do not count. -/
theorem balancedFrom_of_takeQuoted {quote : Char} {cs body rest : List Char} (hquote : quote ≠ '\\')
    (h : takeQuoted quote cs = some (body, rest)) (depth : Nat) :
    balancedFrom depth (some quote) cs = balancedFrom depth none rest := by
  fun_induction takeQuoted quote cs generalizing body rest with
  | case1 | case2 => cases h
  | case3 c cs ih =>
      obtain ⟨⟨b, r⟩, hr, he⟩ := Option.map_eq_some_iff.1 h
      cases he
      rw [balancedFrom.eq_def]
      simp [ih hr]
  | case4 cs =>
      cases h
      rw [balancedFrom.eq_def]
      simp [hquote]
  | case5 c cs hc hne ih =>
      obtain ⟨⟨b, r⟩, hr, he⟩ := Option.map_eq_some_iff.1 h
      cases he
      have hslash : c ≠ '\\' := by
        rintro rfl
        exact hc rfl
      rw [balancedFrom.eq_def]
      simp [hslash, hne, ih hr]

/-- A token that is written out opens and closes what it opens and closes among tokens. -/
theorem balancedFrom_of_written {t : Token} {cs rest : List Char} {ts : List Token}
    (h : Written t.kind t.text cs rest) (ih : ∀ depth, balancedFrom depth none rest = closes depth ts)
    (depth : Nat) : balancedFrom depth none (cs ++ rest) = closes depth (t :: ts) := by
  obtain ⟨kind, text, position⟩ := t
  dsimp only at h
  have hskip (hkind : kind ≠ .paren) :
      closes depth (⟨kind, text, position⟩ :: ts) = balancedFrom depth none rest := by
    rw [closes_cons_of_kind hkind, ih]
  have hplain {ds : List Char} (hkind : kind ≠ .paren) (hds : ∀ d ∈ ds, IsPlain d) :
      balancedFrom depth none (ds ++ rest) = closes depth (⟨kind, text, position⟩ :: ts) := by
    rw [balancedFrom_of_isPlain hds, hskip hkind]
  cases h with
  | opening => simp [balancedFrom, closes, Token.is, ih]
  | closing =>
      cases depth with
      | zero => simp [balancedFrom, closes, Token.is]
      | succ depth => simp [balancedFrom, closes, Token.is, ih]
  | comma => exact hplain (by decide) (by simp [IsPlain])
  | @string quote inner body _ hquote hbody =>
      have hslash : quote ≠ '\\' := by
        rcases hquote with rfl | rfl <;> decide
      rw [hskip (by decide), ← balancedFrom_of_takeQuoted hslash hbody depth, List.cons_append, List.append_assoc,
        List.singleton_append, balancedFrom.eq_def]
      rcases hquote with rfl | rfl <;> simp
  | number hcs => exact hplain (by decide) fun d hd => isPlain_of_isDigit (hcs d hd)
  | word hcs =>
      refine hplain ?_ fun d hd => isPlain_of_isNameChar (hcs d hd)
      unfold wordLexeme
      split <;> (intro hkind; cases hkind)
  | operator hcs => exact hplain (by decide) fun d hd => (hcs d hd).2

theorem balancedFrom_of_writtenAll {cs : List Char} {ts : List Token} (h : WrittenAll cs ts) (depth : Nat) :
    balancedFrom depth none cs = closes depth ts := by
  induction h generalizing depth with
  | nil => rfl
  | @blank c cs ts hblank _ ih =>
      have hplain : ∀ d ∈ [c], IsPlain d := by simpa using isPlain_of_isBlank hblank
      exact (balancedFrom_of_isPlain hplain depth cs).trans (ih depth)
  | token hwritten _ ih => exact balancedFrom_of_written hwritten ih depth

/-- **The parentheses of a formula with a tree** balance. -/
theorem parensBalanced_of_parseFormula {formula : String} {e : Expr} (h : parseFormula formula = .ok e) :
    parensBalanced formula := by
  obtain ⟨ts, hwritten, -, hderives⟩ := exists_of_parseFormula h
  have hcloses := closes_of_derives hderives 0 []
  rw [List.append_nil] at hcloses
  rw [parensBalanced, balancedFrom_of_writtenAll hwritten, hcloses]
  rfl

/-! ### Words -/

/-- A word that occurs further on occurs. -/
theorem hasWordFrom_append {word rest : List Char} (cs : List Char) {before : Option Char}
    (h : hasWordFrom word (cs.getLast?.or before) rest) : hasWordFrom word before (cs ++ rest) := by
  induction cs generalizing before with
  | nil => exact h
  | cons c cs ih =>
      rw [List.cons_append, hasWordFrom, Bool.or_eq_true]
      refine .inr (ih ?_)
      rw [List.getLast?_cons] at h
      cases hlast : cs.getLast? <;> simpa [hlast] using h

/-- A word occurs where it stands on its own. -/
theorem hasWordFrom_self {word rest : List Char} {before : Option Char} (hword : word ≠ [])
    (hbefore : before.any isNameChar = false) (hrest : ∀ c ∈ rest.head?, isNameChar c = false) :
    hasWordFrom word before (word ++ rest) := by
  obtain ⟨c, cs, rfl⟩ := List.exists_cons_of_ne_nil hword
  have hhere : (c :: cs).isPrefixOf? (c :: (cs ++ rest)) = some rest :=
    List.isPrefixOf?_eq_some_iff_append_eq.2 rfl
  have hafter : rest.head?.any isNameChar = false := by
    cases hhead : rest.head? with
    | none => rfl
    | some d => exact hrest d hhead
  rw [List.cons_append, hasWordFrom, hhere]
  simp [hbefore, hafter]

/-- No name goes on where a token ends, a number apart: its last character is none of a name, or the next
one is none. -/
theorem not_isNameChar_of_written {kind : TokenKind} {text : String} {cs rest : List Char}
    (h : Written kind text cs rest) (hkind : kind ≠ .number) :
    cs.getLast?.any isNameChar = false ∨ ∀ c ∈ rest.head?, isNameChar c = false := by
  cases h with
  | opening | closing | comma => exact .inl rfl
  | @string quote inner body _ hquote =>
      have hname : isNameChar quote = false := by
        rcases hquote with rfl | rfl <;> decide
      exact .inl (by simp [List.getLast?_cons, hname])
  | number => exact absurd rfl hkind
  | word _ hrest => exact .inr hrest
  | operator hcs =>
      refine .inl ?_
      rw [List.getLast?_eq_some_getLast (List.cons_ne_nil _ _)]
      exact (hcs _ (List.getLast_mem _)).1

/-- The characters of a name token. -/
theorem written_identifier {text : String} {cs rest : List Char} (h : Written .identifier text cs rest) :
    text.toList = cs ∧ cs ≠ [] ∧ (∀ c ∈ cs, isNameChar c) ∧ ∀ c ∈ rest.head?, isNameChar c = false := by
  generalize hkind : TokenKind.identifier = kind at h
  cases h with
  | opening | closing | comma | string | number | operator => cases hkind
  | @word c cs _ hcs hrest =>
      refine ⟨?_, nofun, hcs, hrest⟩
      unfold wordLexeme at hkind ⊢
      split
      · next hword => rw [hword] at hkind; cases hkind
      · exact String.toList_ofList

/-- **A name among the tokens of a text is a word of it.**  No name comes right after a number, so that
nothing in front of a name goes on with it. -/
theorem hasWordFrom_of_writtenAll {cs : List Char} {ts : List Token} {t : Token} (h : WrittenAll cs ts)
    (hchain : ts.IsChain Neighbours) (ht : t ∈ ts) (hkind : t.kind = .identifier) {before : Option Char}
    (hbefore : before.any isNameChar = false ∨ (∀ c ∈ cs.head?, isNameChar c = false) ∨
      ∀ u ∈ ts.head?, u.kind ≠ .identifier) : hasWordFrom t.text.toList before cs := by
  induction h generalizing before with
  | nil => cases ht
  | @blank c cs ts hblank _ ih =>
      have hc : (some c).any isNameChar = false := not_isNameChar_of_isBlank hblank
      exact hasWordFrom_append [c] (ih hchain ht (.inl hc))
  | @token u c cs rest ts hwritten _ ih =>
      obtain ⟨hnext, hchain⟩ := List.isChain_cons.1 hchain
      rcases List.mem_cons.1 ht with rfl | ht
      · rw [hkind] at hwritten
        obtain ⟨htext, hne, hcs, hrest⟩ := written_identifier hwritten
        rw [htext]
        refine hasWordFrom_self hne ?_ hrest
        rcases hbefore with hbefore | hhead | hname
        · exact hbefore
        · exact absurd (hcs c List.mem_cons_self) (by simp [hhead c rfl])
        · exact absurd hkind (hname _ rfl)
      · refine hasWordFrom_append (c :: cs) (ih hchain ht ?_)
        rw [List.getLast?_eq_some_getLast (List.cons_ne_nil c cs), Option.some_or,
          ← List.getLast?_eq_some_getLast]
        by_cases hnumber : u.kind = .number
        · exact .inr (.inr fun v hv => hnext v hv hnumber)
        · exact (not_isNameChar_of_written hwritten hnumber).imp_right .inl

/-- **A name that a tree mentions** stands in the text of the formula as a word. -/
theorem mentionsWord_of_mem_mentions {formula : String} {e : Expr} (h : parseFormula formula = .ok e)
    {name : String} (hname : name ∈ e.mentions) : mentionsWord formula name := by
  obtain ⟨ts, hwritten, -, hderives⟩ := exists_of_parseFormula h
  obtain ⟨t, ht, hkind, rfl⟩ := hderives.exists_name hname
  exact hasWordFrom_of_writtenAll hwritten hderives.isChain ht hkind (.inl rfl)

/-- What a tree mentions are names. -/
theorem isName_of_mem_mentions {formula : String} {e : Expr} (h : parseFormula formula = .ok e)
    {name : String} (hname : name ∈ e.mentions) : IsName name := by
  obtain ⟨ts, -, hspelled, hderives⟩ := exists_of_parseFormula h
  obtain ⟨t, ht, hkind, rfl⟩ := hderives.exists_name hname
  have := hspelled t ht
  rwa [hkind] at this

end Costing.Validation
