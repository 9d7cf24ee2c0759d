import Costing.Formula.Token
import Costing.Text.Named

/-!
# Validation — Scan

What can be told from a text without reading it as a formula or a path: whether a word occurs in it,
which numeric indices it holds and whether its parentheses balance.
-/

namespace Costing.Validation

open Costing.Formula (isNameStart isNameChar)

/-- Whether `word` occurs in `cs` with no name character before or after it; `before` stands in front
of `cs`. -/
def hasWordFrom (word : List Char) (before : Option Char) : List Char → Bool
  | [] => false
  | c :: cs =>
    let here :=
      match word.isPrefixOf? (c :: cs) with
      | some rest => !before.any isNameChar && !rest.head?.any isNameChar
      | none => false
    here || hasWordFrom word (some c) cs

/-- Whether a word occurs in a text on its own. -/
def mentionsWord (text word : String) : Bool :=
  hasWordFrom word.toList none text.toList

/-- A decimal digit of any script; the table is read beyond ASCII only. -/
def isDecimalDigit (c : Char) : Bool :=
  if c.toNat < 128 then c.isDigit else Text.Category.ofCodePoint c.toNat == .decimalNumber

/-- A numeric index of what an owner names, in brackets or after a point. -/
structure IndexUse where
  owner : List Char
  digits : List Char
  dotted : Bool
deriving Repr, DecidableEq

/-- The name in front of `cs`, if it starts with one, and the rest. -/
def spanName (cs : List Char) : List Char × List Char :=
  if cs.head?.any isNameStart then (cs.takeWhile isNameChar, cs.dropWhile isNameChar) else ([], cs)

/-- An optional name and a number in brackets in front of `cs`, and what follows them. -/
def bracketedAt? (cs : List Char) : Option (IndexUse × List Char) :=
  let (owner, rest) := spanName cs
  match Text.dropBlank rest with
  | '[' :: rest =>
    let inner := Text.dropBlank rest
    let digits := inner.takeWhile isDecimalDigit
    match Text.dropBlank (inner.dropWhile isDecimalDigit) with
    | ']' :: rest => if digits.isEmpty then none else some (⟨owner, digits, false⟩, rest)
    | _ => none
  | _ => none

/-- A name, a point and a number in front of `cs`, and what follows them; the number ends where a
word ends. -/
def dottedAt? (cs : List Char) : Option (IndexUse × List Char) :=
  let (owner, rest) := spanName cs
  match rest with
  | '.' :: rest =>
    let digits := rest.takeWhile isDecimalDigit
    let after := rest.dropWhile isDecimalDigit
    if owner.isEmpty || digits.isEmpty || after.head?.any Text.isWordChar then none
    else some (⟨owner, digits, true⟩, after)
  | _ => none

/-- The occurrences that `found?` finds, from left to right and without overlap. -/
def occurrences {α : Type} (found? : List Char → Option (α × List Char)) (cs : List Char) :
    List α :=
  match cs with
  | [] => []
  | c :: cs =>
    match found? (c :: cs) with
    | none => occurrences found? cs
    | some (a, rest) =>
      if rest.length ≤ cs.length then a :: occurrences found? rest
      else occurrences found? cs
termination_by cs.length

/-- The numeric indices of a text: those in brackets, then those after a point. -/
def indexUses (text : String) : List IndexUse :=
  occurrences bracketedAt? text.toList ++ occurrences dottedAt? text.toList

/-- How an index is shown. -/
def IndexUse.shown (use : IndexUse) : String :=
  let owner := String.ofList use.owner
  let digits := String.ofList use.digits
  if use.dotted then owner ++ "." ++ digits else owner ++ "[" ++ digits ++ "]"

/-- Whether parentheses outside quotes balance, `depth` of them open and `quote` the quote that is. -/
def balancedFrom (depth : Nat) (quote : Option Char) : List Char → Bool
  | [] => depth == 0
  | c :: cs =>
    match quote with
    | some q =>
      if c == '\\' then
        match cs with
        | [] => depth == 0
        | _ :: cs => balancedFrom depth quote cs
      else if c == q then balancedFrom depth none cs
      else balancedFrom depth quote cs
    | none =>
      if c == '"' || c == '\'' then balancedFrom depth (some c) cs
      else if c == '(' then balancedFrom (depth + 1) none cs
      else if c == ')' then
        match depth with
        | 0 => false
        | depth + 1 => balancedFrom depth none cs
      else balancedFrom depth none cs

/-- Whether the parentheses of a text balance. -/
def parensBalanced (text : String) : Bool :=
  balancedFrom 0 none text.toList

end Costing.Validation
