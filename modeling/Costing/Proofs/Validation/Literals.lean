import Costing.Proofs.Validation.Words

/-!
# Validation — string literals as they are spelled

A character of a string literal is written as it is or with a backslash before it (`Glyph`); either way the
backslash is no part of the value.  `stringLiterals` reads the literals off the text of a formula, backslashes
included.

* `takeQuoted_eq`: what the scanner takes as the contents of a literal is its value.
* `strings_of_derives`, `strings_of_parseFormula`: the literals of a text have the values that the string literals
  of its tree have, in order.
-/

namespace Costing.Validation

open Costing.Formula

/-! ### Spellings -/

/-- A character of a literal, and whether a backslash is written before it. -/
structure Glyph where
  char : Char
  escaped : Bool
deriving Repr, DecidableEq

/-- How a character is written. -/
def Glyph.written (g : Glyph) : List Char :=
  if g.escaped then ['\\', g.char] else [g.char]

/-- The characters between the quotes of a literal. -/
abbrev Spelling := List Glyph

namespace Spelling

/-- What stands between the quotes. -/
def written (s : Spelling) : List Char :=
  s.flatMap Glyph.written

/-- What the literal is. -/
def value (s : Spelling) : String :=
  String.ofList (s.map Glyph.char)

end Spelling

/-- The characters up to the closing quote, and what follows it. -/
def spellQuoted (quote : Char) : List Char → Option (Spelling × List Char)
  | [] => none
  | '\\' :: rest =>
    match rest with
    | [] => none
    | c :: rest => (spellQuoted quote rest).map fun (s, rest) => (⟨c, true⟩ :: s, rest)
  | c :: rest =>
    if c = quote then some ([], rest)
    else (spellQuoted quote rest).map fun (s, rest) => (⟨c, false⟩ :: s, rest)

/-- **The contents that the scanner takes** are the value. -/
theorem takeQuoted_eq (quote : Char) (cs : List Char) :
    takeQuoted quote cs = (spellQuoted quote cs).map fun (s, rest) => (s.map Glyph.char, rest) := by
  fun_induction takeQuoted quote cs with
  | case1 | case2 => rfl
  | case3 c cs ih =>
      rw [spellQuoted, ih, Option.map_map, Option.map_map]
      rfl
  | case4 cs hslash =>
      rw [spellQuoted, if_pos rfl]
      · rfl
      · exact hslash
  | case5 c cs hslash hne ih =>
      rw [spellQuoted, if_neg hne, ih, Option.map_map, Option.map_map]
      · rfl
      · exact hslash

theorem spellQuoted_suffix {quote : Char} {cs rest : List Char} {s : Spelling}
    (h : spellQuoted quote cs = some (s, rest)) : rest <:+ cs :=
  takeQuoted_suffix (by rw [takeQuoted_eq, h]; rfl)

/-- What is read as a literal is how the literal is written. -/
theorem eq_of_spellQuoted {quote : Char} {cs rest : List Char} {s : Spelling}
    (h : spellQuoted quote cs = some (s, rest)) : cs = s.written ++ quote :: rest := by
  fun_induction spellQuoted quote cs generalizing s rest with
  | case1 | case2 => cases h
  | case3 c cs ih =>
      obtain ⟨⟨s, r⟩, hr, he⟩ := Option.map_eq_some_iff.1 h
      cases he
      rw [ih hr]
      rfl
  | case4 cs =>
      cases h
      rfl
  | case5 c cs _ _ ih =>
      obtain ⟨⟨s, r⟩, hr, he⟩ := Option.map_eq_some_iff.1 h
      cases he
      rw [ih hr]
      rfl

/-- The literals from the first quote on. -/
def literalsFrom (cs : List Char) : List Spelling :=
  match cs with
  | [] => []
  | c :: cs =>
    if c = '"' ∨ c = '\'' then
      match h : spellQuoted c cs with
      | some (s, rest) =>
        have : rest.length < cs.length + 1 := Nat.lt_succ_of_le (spellQuoted_suffix h).length_le
        s :: literalsFrom rest
      | none => []
    else literalsFrom cs
termination_by cs.length

/-- The string literals of a formula text, from left to right. -/
def stringLiterals (formula : String) : List Spelling :=
  literalsFrom formula.toList

theorem literalsFrom_cons_of_ne {c : Char} (h : ¬ (c = '"' ∨ c = '\'')) (cs : List Char) :
    literalsFrom (c :: cs) = literalsFrom cs := by
  rw [literalsFrom, if_neg h]

theorem literalsFrom_cons_of_quote {c : Char} (hc : c = '"' ∨ c = '\'') {cs rest : List Char} {s : Spelling}
    (h : spellQuoted c cs = some (s, rest)) : literalsFrom (c :: cs) = s :: literalsFrom rest := by
  rw [literalsFrom, if_pos hc]
  split
  · next h' => rw [h] at h'; cases h'; rfl
  · next h' => rw [h] at h'; cases h'

/-- Characters that are no quotes hold no literal. -/
theorem literalsFrom_append {cs : List Char} (h : ∀ c ∈ cs, c ≠ '"' ∧ c ≠ '\'') (rest : List Char) :
    literalsFrom (cs ++ rest) = literalsFrom rest := by
  induction cs with
  | nil => rfl
  | cons c cs ih =>
      obtain ⟨hc, hcs⟩ := List.forall_mem_cons.1 h
      rw [List.cons_append, literalsFrom_cons_of_ne (by simp [hc]), ih hcs]

/-! ### The literals of tokens -/

/-- The contents of a token that is a string. -/
def stringText? (t : Token) : Option String :=
  if t.kind = .string then some t.text else none

theorem stringText?_of_string {t : Token} (h : t.kind = .string) : stringText? t = some t.text :=
  if_pos h

theorem filterMap_stringText?_cons {t : Token} (h : t.kind ≠ .string) (ts : List Token) :
    (t :: ts).filterMap stringText? = ts.filterMap stringText? :=
  List.filterMap_cons_none (if_neg h)

theorem ne_quote_of_isPlain {c : Char} (h : IsPlain c) : c ≠ '"' ∧ c ≠ '\'' :=
  ⟨h.1, h.2.1⟩

/-- Only strings are written with quotes. -/
theorem ne_quote_of_written {kind : TokenKind} {text : String} {cs rest : List Char}
    (h : Written kind text cs rest) (hkind : kind ≠ .string) : ∀ c ∈ cs, c ≠ '"' ∧ c ≠ '\'' := by
  cases h with
  | opening | closing | comma => simp
  | string => exact absurd rfl hkind
  | number hcs => exact fun c hc => ne_quote_of_isPlain (isPlain_of_isDigit (hcs c hc))
  | word hcs => exact fun c hc => ne_quote_of_isPlain (isPlain_of_isNameChar (hcs c hc))
  | operator hcs => exact fun c hc => ne_quote_of_isPlain (hcs c hc).2

/-- The literal of a token that is a string. -/
theorem literalsFrom_of_string {text : String} {cs rest : List Char} (h : Written .string text cs rest) :
    ∃ s : Spelling, s.value = text ∧ literalsFrom (cs ++ rest) = s :: literalsFrom rest := by
  generalize hkind : TokenKind.string = kind at h
  cases h with
  | opening | closing | comma | number | operator => cases hkind
  | word =>
      unfold wordLexeme at hkind
      split at hkind <;> cases hkind
  | @string quote inner body _ hquote htake =>
      rw [takeQuoted_eq] at htake
      obtain ⟨⟨s, r⟩, hspell, he⟩ := Option.map_eq_some_iff.1 htake
      cases he
      refine ⟨s, rfl, ?_⟩
      rw [List.cons_append, List.append_assoc, List.singleton_append]
      exact literalsFrom_cons_of_quote hquote hspell

/-- **The literals of a text that is tokens** are its strings. -/
theorem literalsFrom_of_writtenAll {cs : List Char} {ts : List Token} (h : WrittenAll cs ts) :
    (literalsFrom cs).map Spelling.value = ts.filterMap stringText? := by
  induction h with
  | nil => rw [literalsFrom]; rfl
  | @blank c cs ts hblank _ ih =>
      have hc : ∀ d ∈ [c], d ≠ '"' ∧ d ≠ '\'' := by
        simpa using ne_quote_of_isPlain (isPlain_of_isBlank hblank)
      exact (congrArg _ (literalsFrom_append hc cs)).trans ih
  | @token t c cs rest ts hwritten _ ih =>
      by_cases hkind : t.kind = .string
      · obtain ⟨s, hvalue, hliterals⟩ := literalsFrom_of_string (hkind ▸ hwritten)
        rw [hliterals, List.map_cons, hvalue, ih, List.filterMap_cons_some (stringText?_of_string hkind)]
      · rw [literalsFrom_append (ne_quote_of_written hwritten hkind), ih,
          filterMap_stringText?_cons hkind]

/-- The string literals of a phrase. -/
def Phrase.strings : Phrase → List String
  | .tree _ e => e.strings
  | .arguments args => args.flatMap Expr.strings

theorem filterMap_nodesAll {α : Type} (f : Expr → Option α) (args : List Expr) :
    (Expr.nodesAll args).filterMap f = args.flatMap fun e => e.nodes.filterMap f := by
  induction args with
  | nil => rfl
  | cons e args ih => rw [Expr.nodesAll, List.filterMap_append, ih, List.flatMap_cons]

theorem strings_call (name : String) (args : List Expr) :
    (Expr.call name args).strings = args.flatMap Expr.strings := by
  rw [Expr.strings, Expr.nodes, List.filterMap_cons_none rfl, filterMap_nodesAll]
  rfl

/-- **The string literals of a phrase** are the strings among its tokens, in order. -/
theorem strings_of_derives {ts : List Token} {p : Phrase} (h : Derives ts p) :
    ts.filterMap stringText? = Phrase.strings p := by
  have hskip {t : Token} {kind : TokenKind} {text : String} (his : t.is kind text) (hkind : kind ≠ .string) :=
    filterMap_stringText?_cons (t := t) ((Token.is_iff.1 his).1 ▸ hkind)
  have hname {t : Token} (hkind : t.kind = .identifier) :=
    filterMap_stringText?_cons (t := t) (hkind ▸ by decide)
  induction h with
  | operand _ ih | primary _ ih => exact ih
  | lastArgument _ ih => simpa [Phrase.strings] using ih
  | binary _ his _ _ ihleft ihright =>
      rw [List.filterMap_append, hskip his (by decide), ihleft, ihright]
      simp [Phrase.strings, Expr.strings, Expr.nodes]
  | argument _ his _ ihleft ihright =>
      rw [List.filterMap_append, hskip his (by decide), ihleft, ihright]
      rfl
  | unary his _ _ ih =>
      rw [hskip his (by decide), ih]
      rfl
  | number hkind =>
      rw [filterMap_stringText?_cons (hkind ▸ by decide)]
      rfl
  | string hkind =>
      rw [List.filterMap_cons_some (stringText?_of_string hkind)]
      rfl
  | literal his hmem =>
      rw [hskip his (by decide)]
      simp only [literalNames, List.mem_cons, Prod.mk.injEq, List.not_mem_nil, or_false] at hmem
      rcases hmem with ⟨-, rfl⟩ | ⟨-, rfl⟩ | ⟨-, rfl⟩ <;> rfl
  | identifier hkind =>
      rw [hname hkind]
      rfl
  | call hkind hopen hclose =>
      rw [hname hkind, hskip hopen (by decide), hskip hclose (by decide)]
      rfl
  | callWith hkind hopen _ hclose ih =>
      rw [hname hkind, hskip hopen (by decide), List.filterMap_append, ih, hskip hclose (by decide), Phrase.strings,
        strings_call]
      exact List.append_nil _
  | parentheses hopen _ hclose ih =>
      rw [hskip hopen (by decide), List.filterMap_append, ih, hskip hclose (by decide)]
      exact List.append_nil _

/-- **The string literals of a formula** have the values that the literals of its tree have, in order. -/
theorem strings_of_parseFormula {formula : String} {e : Expr} (h : parseFormula formula = .ok e) :
    (stringLiterals formula).map Spelling.value = e.strings := by
  obtain ⟨ts, hwritten, -, hderives⟩ := exists_of_parseFormula h
  exact (literalsFrom_of_writtenAll hwritten).trans (strings_of_derives hderives)

end Costing.Validation
