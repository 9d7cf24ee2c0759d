import Costing.Formula.Fault

/-!
# Formula — Token

The tokens of a formula text.  `nextLexeme` takes one token off the front, `scan` takes all of
them.  Blanks separate tokens and are dropped; the words `and`, `or` and `not` in any case are
operators; operators of two characters win over operators of one.
-/

namespace Costing.Formula

/-- The kinds of tokens. -/
inductive TokenKind where
  | number
  | string
  | identifier
  | operator
  | paren
  | comma
deriving Repr, DecidableEq

/-- A token; `text` is the canonical spelling of an operator and the contents of a string, and
`position` the offset of the token in bytes. -/
structure Token where
  kind : TokenKind
  text : String
  position : Nat
deriving Repr, DecidableEq

/-- A token without its place. -/
structure Lexeme where
  kind : TokenKind
  text : String
deriving Repr, DecidableEq

/-- The bytes that characters take. -/
def byteCount (cs : List Char) : Nat :=
  cs.foldr (fun c count => c.utf8Size + count) 0

/-- A character that a name may start with. -/
def isNameStart (c : Char) : Bool :=
  c.isAlpha || c == '_'

/-- A character that a name may go on with. -/
def isNameChar (c : Char) : Bool :=
  c.isAlphanum || c == '_'

/-- The operators of two characters. -/
def longOperators : List (List Char) :=
  [['>', '='], ['<', '='], ['=', '='], ['!', '='], ['&', '&'], ['|', '|']]

/-- The operators of one character. -/
def shortOperators : List Char :=
  ['+', '-', '*', '/', '%', '<', '>', '!']

/-- The operator that a word stands for, its case ignored. -/
def wordOperator? (word : String) : Option String :=
  match word.toLower with
  | "and" => some "&&"
  | "or" => some "||"
  | "not" => some "!"
  | _ => none

/-- The contents of a string up to its closing quote, a backslash taken off the character after it,
and what follows the quote. -/
def takeQuoted (quote : Char) : List Char → Option (List Char × List Char)
  | [] => none
  | '\\' :: rest =>
    match rest with
    | [] => none
    | c :: rest => (takeQuoted quote rest).map fun (body, rest) => (c :: body, rest)
  | c :: rest =>
    if c = quote then some ([], rest)
    else (takeQuoted quote rest).map fun (body, rest) => (c :: body, rest)

/-- The digits of a number with at most one point, and what follows; a second point is a fault. -/
def takeNumber (position : Nat) (cs : List Char) : Except Fault (List Char × List Char) :=
  let (whole, rest) := Number.spanDigits cs
  match rest with
  | '.' :: rest =>
    let (fraction, rest) := Number.spanDigits rest
    let text := whole ++ '.' :: fraction
    match rest with
    | '.' :: _ => .error (.malformed (.malformedNumber (String.ofList text) position))
    | rest => .ok (text, rest)
  | rest => .ok (whole, rest)

/-- The token of a word. -/
def wordLexeme (word : List Char) : Lexeme :=
  match wordOperator? (String.ofList word) with
  | some symbol => ⟨.operator, symbol⟩
  | none => ⟨.identifier, String.ofList word⟩

/-- The operator in front of `c :: cs`, and what follows it. -/
def takeOperator? (c : Char) (cs : List Char) : Option (String × List Char) :=
  match cs with
  | d :: rest =>
    if [c, d] ∈ longOperators then some (String.ofList [c, d], rest)
    else if c ∈ shortOperators then some (c.toString, cs)
    else none
  | [] => if c ∈ shortOperators then some (c.toString, []) else none

/-- Whether a number starts with `c` before `cs`: a digit, or a point and a digit. -/
def startsNumber (c : Char) (cs : List Char) : Bool :=
  c.isDigit || (c == '.' && (cs.head?.any Char.isDigit))

/-- The token in front of `c :: cs`, where `c` is no blank, and what follows it. -/
def nextLexeme (position : Nat) (c : Char) (cs : List Char) : Except Fault (Lexeme × List Char) :=
  if c = '(' ∨ c = ')' then .ok (⟨.paren, c.toString⟩, cs)
  else if c = ',' then .ok (⟨.comma, ","⟩, cs)
  else if c = '"' ∨ c = '\'' then
    match takeQuoted c cs with
    | some (body, rest) => .ok (⟨.string, String.ofList body⟩, rest)
    | none => .error (.malformed (.unterminatedString position))
  else if startsNumber c cs then
    (takeNumber position (c :: cs)).map fun (text, rest) => (⟨.number, String.ofList text⟩, rest)
  else if isNameStart c then
    .ok (wordLexeme (c :: cs.takeWhile isNameChar), cs.dropWhile isNameChar)
  else
    match takeOperator? c cs with
    | some (symbol, rest) => .ok (⟨.operator, symbol⟩, rest)
    | none => .error (.unsupported c position)

/-! ### What a token leaves is shorter -/

theorem takeQuoted_suffix {quote : Char} {cs body rest : List Char}
    (h : takeQuoted quote cs = some (body, rest)) : rest <:+ cs := by
  fun_induction takeQuoted quote cs generalizing body rest with
  | case1 => simp at h
  | case2 => simp at h
  | case3 c cs ih =>
    obtain ⟨⟨b, r⟩, hr, he⟩ := Option.map_eq_some_iff.1 h
    obtain ⟨-, rfl⟩ := Prod.mk.inj he
    exact (ih hr).trans ((List.suffix_cons c cs).trans (List.suffix_cons '\\' (c :: cs)))
  | case4 c cs =>
    obtain ⟨-, rfl⟩ := Prod.mk.inj (Option.some.inj h)
    exact List.suffix_cons ..
  | case5 c cs _ _ ih =>
    obtain ⟨⟨b, r⟩, hr, he⟩ := Option.map_eq_some_iff.1 h
    obtain ⟨-, rfl⟩ := Prod.mk.inj he
    exact (ih hr).trans (List.suffix_cons c cs)

theorem takeNumber_append {position : Nat} {cs text rest : List Char}
    (h : takeNumber position cs = .ok (text, rest)) : text ++ rest = cs := by
  simp only [takeNumber, Number.spanDigits] at h
  split at h
  · next r hr =>
    split at h
    · simp at h
    · obtain ⟨rfl, rfl⟩ := Prod.mk.inj (Except.ok.inj h)
      rw [List.append_assoc, List.cons_append, List.takeWhile_append_dropWhile, ← hr,
        List.takeWhile_append_dropWhile]
  · obtain ⟨rfl, rfl⟩ := Prod.mk.inj (Except.ok.inj h)
    rw [List.takeWhile_append_dropWhile]

theorem takeOperator?_suffix {c : Char} {cs rest : List Char} {symbol : String}
    (h : takeOperator? c cs = some (symbol, rest)) : rest <:+ cs := by
  unfold takeOperator? at h
  split at h
  · split at h
    · obtain ⟨-, rfl⟩ := Prod.mk.inj (Option.some.inj h)
      exact List.suffix_cons ..
    · split at h
      · obtain ⟨-, rfl⟩ := Prod.mk.inj (Option.some.inj h)
        exact List.suffix_refl _
      · simp at h
  · split at h
    · obtain ⟨-, rfl⟩ := Prod.mk.inj (Option.some.inj h)
      exact List.suffix_refl _
    · simp at h

/-- A number takes at least the character it starts with. -/
theorem takeNumber_ne_nil {position : Nat} {c : Char} {cs text rest : List Char}
    (hs : startsNumber c cs = true) (h : takeNumber position (c :: cs) = .ok (text, rest)) :
    text ≠ [] := by
  simp only [takeNumber, Number.spanDigits] at h
  split at h
  · split at h
    · simp at h
    · obtain ⟨rfl, -⟩ := Prod.mk.inj (Except.ok.inj h)
      simp
  · next hr =>
    obtain ⟨rfl, -⟩ := Prod.mk.inj (Except.ok.inj h)
    intro hnil
    have hc : c.isDigit = false := by
      cases hd : c.isDigit with
      | false => rfl
      | true => simp [hd] at hnil
    have hdot : c = '.' := by
      simp only [startsNumber, hc, Bool.false_or, Bool.and_eq_true, beq_iff_eq] at hs
      exact hs.1
    subst hdot
    exact hr cs (by simp [hc])

/-- What follows a token is a part of what follows its first character. -/
theorem nextLexeme_suffix {position : Nat} {c : Char} {cs rest : List Char} {l : Lexeme}
    (h : nextLexeme position c cs = .ok (l, rest)) : rest <:+ cs := by
  unfold nextLexeme at h
  split at h
  · obtain ⟨-, rfl⟩ := Prod.mk.inj (Except.ok.inj h)
    exact List.suffix_refl _
  split at h
  · obtain ⟨-, rfl⟩ := Prod.mk.inj (Except.ok.inj h)
    exact List.suffix_refl _
  split at h
  · split at h
    · next hq =>
      obtain ⟨-, rfl⟩ := Prod.mk.inj (Except.ok.inj h)
      exact takeQuoted_suffix hq
    · simp at h
  split at h
  · next hs =>
    cases hn : takeNumber position (c :: cs) with
    | error e => simp [hn, Except.map] at h
    | ok p =>
      obtain ⟨text, r⟩ := p
      simp only [hn, Except.map] at h
      obtain ⟨-, rfl⟩ := Prod.mk.inj (Except.ok.inj h)
      have happ := takeNumber_append hn
      cases text with
      | nil => exact absurd rfl (takeNumber_ne_nil hs hn)
      | cons d text =>
        obtain ⟨-, rfl⟩ := List.cons.inj happ
        exact List.suffix_append ..
  split at h
  · obtain ⟨-, rfl⟩ := Prod.mk.inj (Except.ok.inj h)
    exact List.dropWhile_suffix _
  · split at h
    · next hq =>
      obtain ⟨-, rfl⟩ := Prod.mk.inj (Except.ok.inj h)
      exact takeOperator?_suffix hq
    · simp at h

namespace Token

/-- The tokens of `cs`, which starts at a position in bytes. -/
def scanFrom (position : Nat) (cs : List Char) : Except Fault (List Token) :=
  match cs with
  | [] => .ok []
  | c :: cs =>
    if Text.isBlank c then scanFrom (position + c.utf8Size) cs
    else
      match h : nextLexeme position c cs with
      | .error fault => .error fault
      | .ok (lexeme, rest) =>
        have : rest.length < cs.length + 1 := Nat.lt_succ_of_le (nextLexeme_suffix h).length_le
        let taken := (c :: cs).take ((c :: cs).length - rest.length)
        (scanFrom (position + byteCount taken) rest).map
          (⟨lexeme.kind, lexeme.text, position⟩ :: ·)
termination_by cs.length

/-- The tokens of a formula text. -/
def scan (formula : String) : Except Fault (List Token) :=
  scanFrom 0 formula.toList

end Token

end Costing.Formula
