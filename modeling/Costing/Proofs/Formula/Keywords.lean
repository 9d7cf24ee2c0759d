import Costing.Formula.Eval
import Costing.Formula.Typing
import Costing.Native
import Costing.Proofs.Formula.Placeless
import Costing.Proofs.Formula.Spans

/-!
# Formula — words and symbols

The words `and`, `or` and `not` and the symbols `&&`, `||` and `!` are two ways to write the same operators.
Where the scanner reads one of the words, its symbol between two blanks can stand instead: what is in front ends
where it did (`ScansTo.replace`), what follows is scanned as before, from another place (`scanFrom_placeless`), and
the parser does not ask for places (`parse_placeless`).

* `KeywordAt`: a word of a text that the scanner reads as an operator.
* `keyword_interchangeable`: every operator of a scanned text that is not written with its symbol is such a word, and
  the text with the symbol is the same tokens and the same formula, or neither is one.
-/

namespace Costing.Formula

/-! ### From runs to tokens -/

/-- The tokens of a run up to a place come before those of what is there. -/
theorem ScansTo.exists_scanFrom {cs rest : List Char} {ls : List Lexeme} (h : ScansTo cs ls rest) (position : Nat) :
    ∃ ts next, ts.map Token.lexeme = ls ∧
      Token.scanFrom position cs = (Token.scanFrom next rest).map (ts ++ ·) := by
  induction h generalizing position with
  | @here rest =>
      refine ⟨[], position, rfl, ?_⟩
      cases Token.scanFrom position rest <;> rfl
  | @blank c cs rest ls hblank _ ih =>
      obtain ⟨ts, next, hts, hscan⟩ := ih (position + c.utf8Size)
      exact ⟨ts, next, hts, (scanFrom_cons_of_isBlank hblank position cs).trans hscan⟩
  | @token first c ds left rest l ls hblank hnext _ ih =>
      obtain ⟨ts, next, hts, hscan⟩ := ih (position + byteCount (c :: ds))
      refine ⟨⟨l.kind, l.text, position⟩ :: ts, next, congrArg (l :: ·) hts, ?_⟩
      rw [scanFrom_cons_of_ok hblank (nextLexeme_of_replaces (.refl left) hnext position), hscan]
      cases Token.scanFrom next rest <;> rfl

theorem Lexes.IsToken.lexemes {kind : TokenKind} {text : String} {ts : List Token} (h : IsToken kind text ts) :
    ts.map Token.lexeme = [⟨kind, text⟩] := by
  obtain ⟨t, rfl, ht⟩ := h
  obtain ⟨rfl, rfl⟩ := Token.is_iff.1 ht
  rfl

/-- Texts that are scanned to the same up to a common rest are the same tokens but for places, or none. -/
theorem Lexes.agree {cs cs' rest : List Char} {ls : List Lexeme}
    (h : Lexes cs rest fun ts => ts.map Token.lexeme = ls) (h' : Lexes cs' rest fun ts => ts.map Token.lexeme = ls)
    (position other : Nat) :
    Agree SameLexemes (Token.scanFrom position (cs ++ rest)) (Token.scanFrom other (cs' ++ rest)) := by
  obtain ⟨ts, next, hts, hscan⟩ := h position
  obtain ⟨us, next', hus, hscan'⟩ := h' other
  rw [hscan, hscan']
  exact (scanFrom_placeless next next' rest).map fun _ _ hrest => SameLexemes.append (hts.trans hus.symm) hrest

/-! ### Words that are operators -/

/-- A character that is a letter in lower case is a letter. -/
theorem isNameStart_of_toLower {c : Char} (h : isNameStart c.toLower) : isNameStart c := by
  unfold Char.toLower at h
  split at h
  · next hupper =>
      have hupper : c.isUpper := by simpa [Char.isUpper] using hupper
      simp [isNameStart, Char.isAlpha, hupper]
  · exact h

/-- The words that are operators are letters. -/
theorem isNameStart_of_mem_word {word lower symbol : String} (hmem : (lower, symbol) ∈ wordOperators)
    (hword : word.toLower = lower) : ∀ c ∈ word.toList, isNameStart c := by
  have hletters : ∀ pair ∈ wordOperators, ∀ c ∈ pair.1.toList, isNameStart c := by
    simp [wordOperators, isNameStart]
  intro c hc
  refine isNameStart_of_toLower (hletters _ hmem _ ?_)
  rw [← hword, String.toLower, String.toList_map]
  exact List.mem_map_of_mem hc

/-- The scanner reads a word of a text as an operator: the word is that of a symbol in some case, scanning comes to
it between two tokens, and the token that it takes there is the word and an operator. -/
structure KeywordAt (before word after symbol : String) : Prop where
  spelled : ∃ lower, (lower, symbol) ∈ wordOperators ∧ word.toLower = lower
  reached : ∃ ls, ScansTo (before ++ word ++ after).toList ls (word ++ after).toList
  taken : ∃ position c cs l, word.toList = c :: cs ∧
    nextLexeme position c (cs ++ after.toList) = .ok (l, after.toList) ∧ l.kind = .operator

namespace KeywordAt

variable {before word after symbol : String} (h : KeywordAt before word after symbol)

include h

/-- The operator that is taken is the symbol of the word. -/
theorem lexes_word : Lexes word.toList after.toList fun ts => ts.map Token.lexeme = [⟨.operator, symbol⟩] := by
  obtain ⟨lower, hmem, hword⟩ := h.spelled
  obtain ⟨position, c, cs, l, hcs, hnext, -⟩ := h.taken
  have hletters := isNameStart_of_mem_word hmem hword
  rw [hcs, List.forall_mem_cons] at hletters
  obtain ⟨hc, hletters⟩ := hletters
  have hchars : ∀ d ∈ cs, isNameChar d := fun d hd => isNameChar_of_isNameStart (hletters d hd)
  have hlexeme : wordLexeme (c :: cs) = ⟨.operator, symbol⟩ := by
    rw [wordLexeme, ← hcs, String.ofList_toList, wordOperator?_eq_some_iff.2 ⟨lower, hmem, hword⟩]
  have halone := nextLexeme_alone hnext position
  rw [nextLexeme_of_isNameStart hc, List.takeWhile_eq_self_iff.2 hchars, hlexeme] at halone
  obtain ⟨rfl, -⟩ := Prod.mk.inj (Except.ok.inj halone)
  have hbounds := isNameStart_bounds hc
  rw [hcs]
  refine (Lexes.token (not_isBlank_of_bounds (by omega)) fun other => ?_).mono fun _ => Lexes.IsToken.lexemes
  exact nextLexeme_of_replaces (.refl _) hnext other

/-- The symbol is the same operator, between two blanks. -/
theorem lexes_symbol :
    Lexes (" " ++ symbol ++ " ").toList after.toList fun ts => ts.map Token.lexeme = [⟨.operator, symbol⟩] := by
  obtain ⟨lower, hmem, -⟩ := h.spelled
  have hsymbol : Lexes symbol.toList (' ' :: after.toList) (Lexes.IsToken .operator symbol) := by
    simp only [wordOperators, List.mem_cons, Prod.mk.injEq, List.not_mem_nil, or_false] at hmem
    rcases hmem with ⟨-, rfl⟩ | ⟨-, rfl⟩ | ⟨-, rfl⟩
    · exact .binaryOp .and
    · exact .binaryOp .or
    · exact .unaryOp .not (by decide)
  have hblank : Lexes [' '] after.toList (· = []) := .blank (by decide)
  rw [String.toList_append, String.toList_append]
  refine (hsymbol.append hblank ?_).cons_blank
  rintro ts _ hts rfl
  rw [List.append_nil]
  exact hts.lexemes

/-- The tokens of the two texts differ in their places only. -/
theorem scan_agree :
    Agree SameLexemes (Token.scan (before ++ word ++ after)) (Token.scan (before ++ " " ++ symbol ++ " " ++ after)) := by
  obtain ⟨ls, hreached⟩ := h.reached
  rw [String.toList_append, String.toList_append, String.toList_append, List.append_assoc] at hreached
  have hsymbol : (" " ++ symbol ++ " ").toList = ' ' :: (symbol.toList ++ [' ']) := by simp
  have hreplaces : Replaces ((" " ++ symbol ++ " ").toList ++ after.toList) (word.toList ++ after.toList) := by
    rw [hsymbol]
    exact .blank (by decide) _ _
  have hjoin (ts us : List Token) (hts : ts.map Token.lexeme = ls)
      (hus : us.map Token.lexeme = [⟨.operator, symbol⟩]) :
      (ts ++ us).map Token.lexeme = ls ++ [⟨.operator, symbol⟩] := by
    rw [List.map_append, hts, hus]
  have hworded : Lexes before.toList (word.toList ++ after.toList) fun ts => ts.map Token.lexeme = ls :=
    hreached.exists_scanFrom
  have hsymbolic : Lexes before.toList ((" " ++ symbol ++ " ").toList ++ after.toList)
      fun ts => ts.map Token.lexeme = ls :=
    (hreached.replace hreplaces).exists_scanFrom
  have hagree := (hworded.append h.lexes_word hjoin).agree (hsymbolic.append h.lexes_symbol hjoin) 0 0
  simpa only [Token.scan, String.toList_append, List.append_assoc] using hagree

end KeywordAt

/-- Every token of a run is taken at a place that a run comes to. -/
theorem Scans.exists_scansTo {position : Nat} {cs : List Char} {ts : List Token} (h : Scans position cs ts) {t : Token}
    (ht : t ∈ ts) : ∃ before c ds rest ls l, cs = before ++ c :: (ds ++ rest) ∧ ScansTo cs ls (c :: (ds ++ rest)) ∧
      nextLexeme t.position c (ds ++ rest) = .ok (l, rest) ∧ t = ⟨l.kind, l.text, position + byteCount before⟩ := by
  induction h with
  | nil => cases ht
  | @blank position b cs ts hblank _ ih =>
      obtain ⟨before, c, ds, rest, ls, l, rfl, hrun, hnext, hl⟩ := ih ht
      exact ⟨b :: before, c, ds, rest, ls, l, rfl, .blank hblank hrun, hnext, by rw [hl, byteCount_cons, Nat.add_assoc]⟩
  | @token position b bs left k ts hblank hnext _ ih =>
      rcases List.mem_cons.1 ht with rfl | ht
      · exact ⟨[], b, bs, left, [], k, rfl, .here, hnext, rfl⟩
      · obtain ⟨before, c, ds, rest, ls, l, rfl, hrun, hnext', hl⟩ := ih ht
        refine ⟨b :: (bs ++ before), c, ds, rest, k :: ls, l, by simp, .token hblank hnext hrun, hnext', ?_⟩
        rw [hl, ← List.cons_append, byteCount_append, Nat.add_assoc]

/-- Every operator of a scanned text is written with its symbol, or with a word that the symbol can replace. -/
theorem exists_keywordAt {formula : String} {ts : List Token} (h : Token.scan formula = .ok ts) {t : Token}
    (ht : t ∈ ts) (hkind : t.kind = .operator) :
    ∃ before slice after, formula = before ++ slice ++ after ∧ byteCount before.toList = t.position ∧
      (slice = t.text ∨ KeywordAt before slice after t.text) := by
  obtain ⟨before, c, ds, rest, ls, l, happend, hrun, hnext, hl⟩ := (scans_of_scanFrom h).exists_scansTo ht
  have hformula : formula = String.ofList before ++ String.ofList (c :: ds) ++ String.ofList rest := by
    rw [← String.toList_inj, happend]
    simp
  have hplace : byteCount (String.ofList before).toList = t.position := by
    rw [String.toList_ofList, hl, Nat.zero_add]
  refine ⟨_, _, _, hformula, hplace, ?_⟩
  have hspells : Spells (c :: ds) t.kind t.text := by
    rw [hl]
    exact (taken_of_nextLexeme hnext).written.spells
  rw [hkind] at hspells
  generalize htext : t.text = text at hspells ⊢
  cases hspells with
  | verbatim => exact .inl rfl
  | @word _ lower _ hmem hlower =>
      refine .inr ⟨⟨lower, hmem, hlower⟩, ⟨ls, ?_⟩, t.position, c, ds, l, by simp, by simpa using hnext, ?_⟩
      · rw [← hformula]
        simpa using hrun
      · rw [hl] at hkind
        exact hkind

/-- **A word and its symbol are interchangeable.**  Every operator of a scanned text is written with its symbol or is
a word that the scanner reads as an operator.  The text with the symbol of such a word instead, between two blanks, has
tokens of the same kinds and texts, or none of the two texts has tokens; and the same tree, or neither has one.  So the
two evaluate alike in every context and have the same type and the same faults with every table of symbols. -/
theorem keyword_interchangeable [Platform] :
    (∀ formula ts, Token.scan formula = .ok ts → ∀ t ∈ ts, t.kind = .operator → ∃ before slice after,
      formula = before ++ slice ++ after ∧ byteCount before.toList = t.position ∧
        (slice = t.text ∨ KeywordAt before slice after t.text)) ∧
    ∀ before word after symbol, KeywordAt before word after symbol →
      let worded := before ++ word ++ after
      let symbolic := before ++ " " ++ symbol ++ " " ++ after
      (Token.scan worded).toOption.map (·.map Token.lexeme) =
        (Token.scan symbolic).toOption.map (·.map Token.lexeme) ∧
      (parseFormula worded).toOption = (parseFormula symbolic).toOption ∧
      (∀ ctx, (parseFormula worded).toOption.map (evaluate ctx) =
        (parseFormula symbolic).toOption.map (evaluate ctx)) ∧
      ∀ symbols, (parseFormula worded).toOption.map (infer symbols) =
        (parseFormula symbolic).toOption.map (infer symbols) := by
  refine ⟨fun formula ts h t ht hkind => exists_keywordAt h ht hkind, fun before word after symbol h => ?_⟩
  intro worded symbolic
  have hscan : Agree SameLexemes (Token.scan worded) (Token.scan symbolic) := h.scan_agree
  have hparse : Agree (· = ·) (parseFormula worded) (parseFormula symbolic) :=
    hscan.bind fun ts us => parse_placeless
  have htree := hparse.toOption_eq
  exact ⟨Agree.iff_toOption.1 hscan, htree, fun ctx => congrArg _ htree, fun symbols => congrArg _ htree⟩

open Native

/-- A word right after a number and right before a symbol. -/
theorem keyword_interchangeable_glued :
    KeywordAt "1" "Or" "!x" "||" ∧
      (Token.scan ("1" ++ "Or" ++ "!x")).toOption.map (·.map Token.lexeme) =
        (Token.scan ("1" ++ " " ++ "||" ++ " " ++ "!x")).toOption.map (·.map Token.lexeme) ∧
      (parseFormula ("1" ++ "Or" ++ "!x")).toOption = (parseFormula ("1" ++ " " ++ "||" ++ " " ++ "!x")).toOption := by
  have hkeyword : KeywordAt "1" "Or" "!x" "||" :=
    { spelled := ⟨"or", by decide, by decide +kernel⟩
      reached := ⟨[⟨.number, "1"⟩], @ScansTo.token 0 '1' [] _ _ _ _ (by decide) rfl .here⟩
      taken := ⟨1, 'O', ['r'], ⟨.operator, "||"⟩, rfl, by decide +kernel, rfl⟩ }
  obtain ⟨hscan, hparse, -⟩ := keyword_interchangeable.2 _ _ _ _ hkeyword
  exact ⟨hkeyword, hscan, hparse⟩

end Costing.Formula
