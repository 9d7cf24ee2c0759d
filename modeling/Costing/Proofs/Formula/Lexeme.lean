import Mathlib
import Costing.Formula.Token
import Costing.Proofs.Text.Trim

/-!
# Formula — one token

Which characters are taken for a token, in front of which others.  `Taken slice rest l` says it kind by kind, with no
scanner and no place in it; `nextLexeme_eq_ok_iff` says that the scanner takes tokens so.  Whatever is shown of a
token that is taken is shown by these kinds.

* `takeQuoted_closes`, `takeNumber_eq_ok_iff`, `takeOperator?_eq_some_iff`: strings, numbers and operators.
* `Taken`: all kinds of tokens.
-/

namespace Costing.Formula

open Costing.Text (ends_dropWhile)

/-! ### Characters -/

theorem isNameStart_bounds {c : Char} (h : isNameStart c) :
    65 ≤ c.toNat ∧ c.toNat ≤ 90 ∨ 97 ≤ c.toNat ∧ c.toNat ≤ 122 ∨ c.toNat = 95 := by
  simp only [isNameStart, Char.isAlpha, Char.isUpper, Char.isLower, Bool.or_eq_true, Bool.and_eq_true,
    decide_eq_true_eq, beq_iff_eq, UInt32.le_iff_toNat_le] at h
  obtain (h | h) | rfl := h
  · exact .inl h
  · exact .inr (.inl h)
  · exact .inr (.inr rfl)

theorem isDigit_bounds {c : Char} (h : c.isDigit) : 48 ≤ c.toNat ∧ c.toNat ≤ 57 := by
  simp only [Char.isDigit, Bool.and_eq_true, decide_eq_true_eq, UInt32.le_iff_toNat_le] at h
  exact h

theorem not_isNameStart_of_isDigit {c : Char} (h : c.isDigit) : isNameStart c = false := by
  have := isDigit_bounds h
  rw [Bool.eq_false_iff]
  intro hname
  have := isNameStart_bounds hname
  omega

theorem isNameChar_of_isDigit {c : Char} (h : c.isDigit) : isNameChar c := by
  simp [isNameChar, Char.isAlphanum, h]

theorem not_isBlank_of_bounds {c : Char} (h : 48 ≤ c.toNat ∧ c.toNat ≤ 122) : Text.isBlank c = false := by
  unfold Text.isBlank
  simp
  omega

theorem isNameChar_of_isNameStart {c : Char} (h : isNameStart c) : isNameChar c := by
  rw [isNameStart, Bool.or_eq_true] at h
  rw [isNameChar, Bool.or_eq_true]
  exact h.imp_left fun halpha => by simp [Char.isAlphanum, halpha]

theorem isNameChar_bounds {c : Char} (h : isNameChar c) : 48 ≤ c.toNat ∧ c.toNat ≤ 122 := by
  rw [isNameChar, Char.isAlphanum, Bool.or_eq_true, Bool.or_eq_true] at h
  rcases h with (h | h) | h
  · have := isNameStart_bounds (c := c) (by simp [isNameStart, h])
    omega
  · have := isDigit_bounds h
    omega
  · have := isNameStart_bounds (c := c) (by simp [isNameStart, h])
    omega

theorem not_isBlank_of_isNameChar {c : Char} (h : isNameChar c) : Text.isBlank c = false :=
  not_isBlank_of_bounds (isNameChar_bounds h)

theorem not_isNameChar_of_isBlank {c : Char} (h : Text.isBlank c) : isNameChar c = false := by
  rw [Bool.eq_false_iff]
  intro hname
  exact Bool.noConfusion ((not_isBlank_of_isNameChar hname).symm.trans h)

theorem not_isDigit_of_isBlank {c : Char} (h : Text.isBlank c) : c.isDigit = false := by
  rw [Bool.eq_false_iff]
  intro hdigit
  exact Bool.noConfusion ((not_isNameChar_of_isBlank h).symm.trans (isNameChar_of_isDigit hdigit))

/-! ### The end of a run of characters -/

theorem takeWhile_append_of_ends {p : Char → Bool} {cs rest : List Char} (hcs : ∀ c ∈ cs, p c)
    (hrest : ∀ c ∈ rest.head?, p c = false) : (cs ++ rest).takeWhile p = cs := by
  rw [List.takeWhile_append_of_pos hcs]
  cases rest with
  | nil => simp
  | cons d rest => simp [hrest d rfl]

theorem dropWhile_append_of_ends {p : Char → Bool} {cs rest : List Char} (hcs : ∀ c ∈ cs, p c)
    (hrest : ∀ c ∈ rest.head?, p c = false) : (cs ++ rest).dropWhile p = rest := by
  rw [List.dropWhile_append_of_pos hcs]
  cases rest with
  | nil => simp
  | cons d rest => simp [hrest d rfl]

/-! ### Strings -/

/-- What a string body says: a backslash is taken off the character after it. -/
def unescape : List Char → List Char
  | '\\' :: c :: cs => c :: unescape cs
  | c :: cs => c :: unescape cs
  | [] => []

theorem unescape_cons {c : Char} (hc : c ≠ '\\') (cs : List Char) : unescape (c :: cs) = c :: unescape cs := by
  rw [unescape]
  exact fun _ _ h _ => hc h

/-- A string goes on to its quote, whatever follows it, and holds what is between. -/
theorem takeQuoted_closes {quote : Char} {cs body rest : List Char}
    (h : takeQuoted quote cs = some (body, rest)) :
    ∃ inner, cs = inner ++ quote :: rest ∧ unescape inner = body ∧
      ∀ after, takeQuoted quote (inner ++ quote :: after) = some (body, after) := by
  fun_induction takeQuoted quote cs generalizing body rest with
  | case1 | case2 => cases h
  | case3 c cs ih =>
      obtain ⟨⟨b, r⟩, hr, he⟩ := Option.map_eq_some_iff.1 h
      cases he
      obtain ⟨inner, rfl, rfl, hafter⟩ := ih hr
      refine ⟨'\\' :: c :: inner, rfl, rfl, fun after => ?_⟩
      rw [List.cons_append, List.cons_append, takeQuoted, hafter]
      rfl
  | case4 cs hc =>
      cases h
      refine ⟨[], rfl, rfl, fun after => ?_⟩
      rw [List.nil_append, takeQuoted, if_pos rfl]
      exact hc
  | case5 c cs hc hquote ih =>
      obtain ⟨⟨b, r⟩, hr, he⟩ := Option.map_eq_some_iff.1 h
      cases he
      obtain ⟨inner, rfl, rfl, hafter⟩ := ih hr
      refine ⟨c :: inner, rfl, unescape_cons hc inner, fun after => ?_⟩
      rw [List.cons_append, takeQuoted, if_neg hquote, hafter]
      · rfl
      · exact hc

/-! ### Numbers -/

/-- Digits, with a point among them or not. -/
def IsDecimal (cs : List Char) : Prop :=
  ∃ whole : List Char, (∀ d ∈ whole, d.isDigit) ∧
    (cs = whole ∨ ∃ fraction : List Char, cs = whole ++ '.' :: fraction ∧ ∀ d ∈ fraction, d.isDigit)

/-- A number is taken as long as it goes on, and no point may follow it. -/
theorem takeNumber_eq_ok_iff {position : Nat} {cs text rest : List Char} :
    takeNumber position cs = .ok (text, rest) ↔
      cs = text ++ rest ∧ IsDecimal text ∧ ∀ d ∈ rest.head?, d.isDigit = false ∧ d ≠ '.' := by
  constructor
  · intro h
    refine ⟨(takeNumber_append h).symm, ?_⟩
    have hdigits {ds : List Char} : ∀ d ∈ ds.takeWhile Char.isDigit, d.isDigit :=
      fun d hd => List.mem_takeWhile_imp hd
    simp only [takeNumber, Number.spanDigits] at h
    split at h
    · split at h
      · cases h
      · next hpoint =>
          cases h
          refine ⟨⟨_, hdigits, .inr ⟨_, rfl, hdigits⟩⟩, fun d hd => ⟨ends_dropWhile hd, ?_⟩⟩
          rintro rfl
          obtain ⟨ds, hds⟩ := List.head?_eq_some_iff.1 hd
          exact hpoint ds hds
    · next hpoint =>
        cases h
        refine ⟨⟨_, hdigits, .inl rfl⟩, fun d hd => ⟨ends_dropWhile hd, ?_⟩⟩
        rintro rfl
        obtain ⟨ds, hds⟩ := List.head?_eq_some_iff.1 hd
        exact hpoint ds hds
  · rintro ⟨rfl, ⟨whole, hwhole, hform⟩, hrest⟩
    have hends : ∀ d ∈ rest.head?, d.isDigit = false := fun d hd => (hrest d hd).1
    -- settles the look at what follows the digits, in both cases
    have hpoint : ∀ ds, rest ≠ '.' :: ds := by
      rintro ds rfl
      exact (hrest '.' rfl).2 rfl
    rcases hform with rfl | ⟨fraction, rfl, hfraction⟩
    · simp only [takeNumber, Number.spanDigits, takeWhile_append_of_ends hwhole hends,
        dropWhile_append_of_ends hwhole hends]
    · have hdot : ∀ d ∈ ('.' :: (fraction ++ rest)).head?, d.isDigit = false := by
        rintro d ⟨⟩
        decide
      rw [List.append_assoc, List.cons_append]
      simp only [takeNumber, Number.spanDigits, takeWhile_append_of_ends hwhole hdot,
        dropWhile_append_of_ends hwhole hdot, takeWhile_append_of_ends hfraction hends,
        dropWhile_append_of_ends hfraction hends]

/-! ### Operators -/

/-- A character that starts or ends neither a string nor a parenthesis. -/
def IsPlain (c : Char) : Prop :=
  c ≠ '"' ∧ c ≠ '\'' ∧ c ≠ '(' ∧ c ≠ ')'

/-- The characters of operators that are no words. -/
theorem mem_of_mem_operators {c : Char} (h : c ∈ shortOperators ∨ ∃ op ∈ longOperators, c ∈ op) :
    c ∈ ['+', '-', '*', '/', '%', '<', '>', '!', '=', '&', '|'] := by
  rcases h with h | ⟨op, hop, hc⟩
  · have hshort : ∀ d ∈ shortOperators, d ∈ ['+', '-', '*', '/', '%', '<', '>', '!', '=', '&', '|'] := by
      simp [shortOperators]
    exact hshort c h
  · have hlong : ∀ op ∈ longOperators, ∀ d ∈ op, d ∈ ['+', '-', '*', '/', '%', '<', '>', '!', '=', '&', '|'] := by
      simp [longOperators]
    exact hlong op hop c hc

theorem not_isNameChar_of_mem_operators {c : Char}
    (h : c ∈ shortOperators ∨ ∃ op ∈ longOperators, c ∈ op) : isNameChar c = false ∧ IsPlain c := by
  have hall : ∀ d ∈ ['+', '-', '*', '/', '%', '<', '>', '!', '=', '&', '|'], isNameChar d = false ∧ IsPlain d := by
    simp [IsPlain, isNameChar]
  exact hall c (mem_of_mem_operators h)

/-- An operator of two characters is taken as such, else one of one character. -/
theorem takeOperator?_eq_some_iff {c : Char} {cs rest : List Char} {symbol : String} :
    takeOperator? c cs = some (symbol, rest) ↔
      (∃ d, cs = d :: rest ∧ [c, d] ∈ longOperators ∧ symbol = String.ofList [c, d]) ∨
      cs = rest ∧ c ∈ shortOperators ∧ symbol = c.toString ∧ ∀ d ∈ rest.head?, [c, d] ∉ longOperators := by
  cases cs with
  | nil =>
      rw [takeOperator?, Option.ite_none_right_eq_some, Option.some_inj, Prod.mk.injEq]
      constructor
      · rintro ⟨hc, rfl, rfl⟩
        exact .inr ⟨rfl, hc, rfl, fun _ hd => absurd hd (Option.not_mem_none _)⟩
      · rintro (⟨d, hnil, -⟩ | ⟨rfl, hc, rfl, -⟩)
        · cases hnil
        · exact ⟨hc, rfl, rfl⟩
  | cons d cs =>
      rw [takeOperator?]
      split
      · next hlong =>
          rw [Option.some_inj, Prod.mk.injEq]
          constructor
          · rintro ⟨rfl, rfl⟩
            exact .inl ⟨d, rfl, hlong, rfl⟩
          · rintro (⟨_, hcons, -, rfl⟩ | ⟨rfl, -, -, hnot⟩)
            · cases hcons
              exact ⟨rfl, rfl⟩
            · exact absurd hlong (hnot d rfl)
      · next hlong =>
          rw [Option.ite_none_right_eq_some, Option.some_inj, Prod.mk.injEq]
          constructor
          · rintro ⟨hc, rfl, rfl⟩
            exact .inr ⟨rfl, hc, rfl, fun _ hd => Option.mem_some.1 hd ▸ hlong⟩
          · rintro (⟨_, hcons, hmem, -⟩ | ⟨rfl, hc, rfl, -⟩)
            · cases hcons
              exact absurd hmem hlong
            · exact ⟨hc, rfl, rfl⟩

/-! ### Tokens -/

/-- The characters `slice` are taken for a token in front of `rest`. -/
inductive Taken : List Char → List Char → Lexeme → Prop where
  | paren {c : Char} {rest : List Char} : c = '(' ∨ c = ')' → Taken [c] rest ⟨.paren, c.toString⟩
  | comma {rest : List Char} : Taken [','] rest ⟨.comma, ","⟩
  /-- A string, from its quote to the first such quote that no backslash is before. -/
  | string {quote : Char} {inner body rest : List Char} :
      quote = '"' ∨ quote = '\'' → takeQuoted quote (inner ++ quote :: rest) = some (body, rest) →
      Taken (quote :: (inner ++ [quote])) rest ⟨.string, String.ofList body⟩
  /-- A number, as long as it goes on. -/
  | number {c : Char} {ds rest : List Char} :
      startsNumber c ds → IsDecimal (c :: ds) → (∀ d ∈ rest.head?, d.isDigit = false ∧ d ≠ '.') →
      Taken (c :: ds) rest ⟨.number, String.ofList (c :: ds)⟩
  /-- A word, as long as it goes on. -/
  | word {c : Char} {ds rest : List Char} :
      isNameStart c → (∀ d ∈ ds, isNameChar d) → (∀ d ∈ rest.head?, isNameChar d = false) →
      Taken (c :: ds) rest (wordLexeme (c :: ds))
  | long {c d : Char} {rest : List Char} :
      [c, d] ∈ longOperators → Taken [c, d] rest ⟨.operator, String.ofList [c, d]⟩
  | short {c : Char} {rest : List Char} :
      c ∈ shortOperators → (∀ d ∈ rest.head?, [c, d] ∉ longOperators) → Taken [c] rest ⟨.operator, c.toString⟩

/-- A number starts with a digit, or with a point and a digit, both taken. -/
theorem startsNumber_of_append {c : Char} {ds rest : List Char} (hstart : startsNumber c (ds ++ rest))
    (hends : ∀ d ∈ rest.head?, d.isDigit = false) : startsNumber c ds := by
  cases ds with
  | cons d ds => exact hstart
  | nil =>
      rw [startsNumber, Bool.or_eq_true] at hstart ⊢
      refine .inl (hstart.resolve_right fun hpoint => ?_)
      obtain ⟨-, hdigit⟩ := Bool.and_eq_true _ _ ▸ hpoint
      obtain ⟨d, hd, hdigit⟩ := Option.any_eq_true .. |>.1 hdigit
      exact absurd hdigit (Bool.eq_false_iff.1 (hends d hd))

theorem startsNumber_append {c : Char} {ds : List Char} (h : startsNumber c ds) (rest : List Char) :
    startsNumber c (ds ++ rest) := by
  cases ds with
  | cons d ds => exact h
  | nil => simp [startsNumber] at h ⊢; exact .inl h

/-- What the scanner takes is a token of some kind. -/
theorem taken_of_nextLexeme {position : Nat} {c : Char} {ds rest : List Char} {l : Lexeme}
    (h : nextLexeme position c (ds ++ rest) = .ok (l, rest)) : Taken (c :: ds) rest l := by
  unfold nextLexeme at h
  split at h
  · next hparen =>
      obtain ⟨rfl, happend⟩ := Prod.mk.inj (Except.ok.inj h)
      obtain rfl : ds = [] := List.append_left_eq_self.1 happend
      exact .paren hparen
  split at h
  · next hcomma =>
      obtain ⟨rfl, happend⟩ := Prod.mk.inj (Except.ok.inj h)
      obtain rfl : ds = [] := List.append_left_eq_self.1 happend
      subst hcomma
      exact .comma
  split at h
  · next hquote =>
      split at h
      · next body left hbody =>
          cases h
          obtain ⟨inner, happend, -, hafter⟩ := takeQuoted_closes hbody
          obtain rfl : ds = inner ++ [c] := List.append_cancel_right (happend.trans (by simp))
          exact .string hquote (hafter rest)
      · cases h
  split at h
  · next hstart =>
      cases hnumber : takeNumber position (c :: (ds ++ rest)) with
      | error fault => rw [hnumber] at h; cases h
      | ok taken =>
          obtain ⟨text, left⟩ := taken
          rw [hnumber] at h
          cases h
          obtain ⟨happend, hdecimal, hends⟩ := takeNumber_eq_ok_iff.1 hnumber
          obtain rfl : c :: ds = text := List.append_cancel_right happend
          exact .number (startsNumber_of_append hstart fun d hd => (hends d hd).1) hdecimal hends
  split at h
  · next hname =>
      obtain ⟨rfl, hdrop⟩ := Prod.mk.inj (Except.ok.inj h)
      have htake : (ds ++ rest).takeWhile isNameChar = ds := by
        have happend := List.takeWhile_append_dropWhile (p := isNameChar) (l := ds ++ rest)
        rw [hdrop] at happend
        exact List.append_cancel_right happend
      rw [htake]
      refine .word hname (fun d hd => List.mem_takeWhile_imp (htake.symm ▸ hd)) fun d hd => ?_
      exact ends_dropWhile (hdrop.symm ▸ hd)
  · split at h
    · next symbol left hop =>
        cases h
        rcases takeOperator?_eq_some_iff.1 hop with ⟨d, happend, hlong, rfl⟩ | ⟨happend, hc, rfl, hnot⟩
        · obtain rfl : ds = [d] := List.append_cancel_right happend
          exact .long hlong
        · obtain rfl : ds = [] := List.append_left_eq_self.1 happend
          exact .short hc hnot
    · cases h

/-- A word is taken as long as it goes on. -/
theorem nextLexeme_of_isNameStart {c : Char} (hc : isNameStart c) (position : Nat) (cs : List Char) :
    nextLexeme position c cs = .ok (wordLexeme (c :: cs.takeWhile isNameChar), cs.dropWhile isNameChar) := by
  have hplain : c ≠ '(' ∧ c ≠ ')' ∧ c ≠ ',' ∧ c ≠ '"' ∧ c ≠ '\'' ∧ c ≠ '.' := by
    refine ⟨?_, ?_, ?_, ?_, ?_, ?_⟩ <;> (rintro rfl; exact absurd hc (by decide))
  have hdigit : c.isDigit = false := by
    rw [Bool.eq_false_iff]
    intro hd
    exact absurd hc (Bool.eq_false_iff.1 (not_isNameStart_of_isDigit hd))
  have hpoint : (c == '.') = false := beq_eq_false_iff_ne.2 hplain.2.2.2.2.2
  simp only [nextLexeme, hplain, startsNumber, hdigit, hpoint, hc, or_self, if_false, if_true,
    Bool.false_or, Bool.false_and, Bool.false_eq_true]

/-- An operator that is no word is looked for last, and nothing else starts with its characters. -/
theorem nextLexeme_of_mem_operators {c : Char} (hc : c ∈ shortOperators ∨ ∃ op ∈ longOperators, c ∈ op)
    (position : Nat) {cs rest : List Char} {symbol : String} (h : takeOperator? c cs = some (symbol, rest)) :
    nextLexeme position c cs = .ok (⟨.operator, symbol⟩, rest) := by
  have hall : ∀ d ∈ ['+', '-', '*', '/', '%', '<', '>', '!', '=', '&', '|'],
      ¬ (d = '(' ∨ d = ')') ∧ d ≠ ',' ∧ ¬ (d = '"' ∨ d = '\'') ∧ d.isDigit = false ∧ (d == '.') = false ∧
        isNameStart d = false := by
    simp [isNameStart]
  obtain ⟨hparen, hcomma, hquote, hdigit, hpoint, hname⟩ := hall c (mem_of_mem_operators hc)
  simp only [nextLexeme, hparen, hcomma, hquote, startsNumber, hdigit, hpoint, hname, if_false, Bool.false_or,
    Bool.false_and, Bool.false_eq_true, h]

/-- A token of some kind is what the scanner takes. -/
theorem Taken.nextLexeme {c : Char} {ds rest : List Char} {l : Lexeme} (h : Taken (c :: ds) rest l) (position : Nat) :
    nextLexeme position c (ds ++ rest) = .ok (l, rest) := by
  cases h with
  | paren hc => rw [Formula.nextLexeme, if_pos hc]; rfl
  | comma => rfl
  | string hquote hbody =>
      rw [List.append_assoc, List.singleton_append]
      rcases hquote with rfl | rfl <;> simp [Formula.nextLexeme, hbody]
  | number hstart hdecimal hends =>
      have hc : c.isDigit ∨ c = '.' := by
        rw [startsNumber, Bool.or_eq_true, Bool.and_eq_true, beq_iff_eq] at hstart
        exact hstart.imp_right And.left
      have hplain : c ≠ '(' ∧ c ≠ ')' ∧ c ≠ ',' ∧ c ≠ '"' ∧ c ≠ '\'' := by
        refine ⟨?_, ?_, ?_, ?_, ?_⟩ <;> (rintro rfl; exact absurd hc (by decide))
      simp only [Formula.nextLexeme, hplain, or_self, if_false, startsNumber_append hstart rest, if_true]
      rw [← List.cons_append, takeNumber_eq_ok_iff.2 ⟨rfl, hdecimal, hends⟩]
      rfl
  | word hc hds hends =>
      rw [nextLexeme_of_isNameStart hc, takeWhile_append_of_ends hds hends, dropWhile_append_of_ends hds hends]
  | @long _ d _ hlong =>
      refine nextLexeme_of_mem_operators (.inr ⟨_, hlong, List.mem_cons_self⟩) position ?_
      exact takeOperator?_eq_some_iff.2 (.inl ⟨d, rfl, hlong, rfl⟩)
  | short hc hnot =>
      exact nextLexeme_of_mem_operators (.inl hc) position (takeOperator?_eq_some_iff.2 (.inr ⟨rfl, hc, rfl, hnot⟩))

/-- **The scanner takes tokens by their kinds**, wherever they stand. -/
theorem nextLexeme_eq_ok_iff {position : Nat} {c : Char} {ds rest : List Char} {l : Lexeme} :
    nextLexeme position c (ds ++ rest) = .ok (l, rest) ↔ Taken (c :: ds) rest l :=
  ⟨taken_of_nextLexeme, fun h => h.nextLexeme position⟩

end Costing.Formula
