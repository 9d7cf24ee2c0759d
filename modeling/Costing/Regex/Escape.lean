import Costing.Regex.Flags
import Costing.Text.Search

/-!
# Regex — Escape

What a backslash and the characters after it stand for: a character, a set of characters or a
condition on the place of a match.
-/

namespace Costing.Regex

open Costing.Text (CharSet)

/-- What an escape stands for. -/
inductive Escape where
  | char (c : Char)
  | set (set : CharSet)
  | look (condition : Look)

/-- The value of a hexadecimal digit. -/
def hexDigit? (c : Char) : Option Nat :=
  if c.isDigit then some (c.toNat - 48)
  else if 'a' ≤ c && c ≤ 'f' then some (c.toNat - 87)
  else if 'A' ≤ c && c ≤ 'F' then some (c.toNat - 55)
  else none

/-- The character that hexadecimal digits write. -/
def hexChar? (digits : List Char) : Option Char := do
  let values ← digits.mapM hexDigit?
  let n := values.foldl (fun n d => min (n * 16 + d) 0x1000000) 0
  if digits.isEmpty || n > CharSet.maxCodePoint || (0xD800 ≤ n && n < 0xE000) then none
  else some (Char.ofNat n)

/-- A given number of digits, notes skipped before each but the first. -/
def takeDigits? (flags : Flags) : Nat → List Char → Option (List Char × List Char)
  | 0, cs => some ([], cs)
  | n + 1, cs =>
    match flags.skip cs with
    | [] => none
    | c :: cs => (takeDigits? flags n cs).map fun (digits, rest) => (c :: digits, rest)

/-- A character by its code point: in braces, or in a given number of digits.  Without Unicode two
digits write a byte, which is a character in ASCII alone. -/
def readHex? (flags : Flags) (digits : Nat) (cs : List Char) : Option (Escape × List Char) := do
  match flags.skip cs with
  | '\x7b' :: cs =>
    let (text, rest) ← takeBraced? flags.verbose false cs
    return (.char (← hexChar? text), flags.skip rest)
  | cs =>
    let (text, rest) ← takeDigits? flags digits cs
    let c ← hexChar? text
    if digits = 2 && !flags.unicode && 0x80 ≤ c.toNat then none
    return (.char c, flags.skip rest)

/-- What stands before and after the first occurrence of a separator. -/
def splitAt? (separator : String) (cs : List Char) : Option (String × String) :=
  (Text.breakOn? separator.toList cs).map fun (a, b) => (String.ofList a, String.ofList b)

/-- The set that the text between the braces of a property names, and whether all but it is meant. -/
def propertySet? (cs : List Char) : Option (CharSet × Bool) :=
  match splitAt? "!=" cs with
  | some (property, value) => (CharSet.valued? property value).map (·, true)
  | none =>
    match (splitAt? ":" cs).or (splitAt? "=" cs) with
    | some (property, value) => (CharSet.valued? property value).map (·, false)
    | none => (CharSet.named? (String.ofList cs)).map (·, false)

/-- A set by the name of a property, in braces or of one letter. -/
def readProperty? (flags : Flags) (negated : Bool) (cs : List Char) :
    Option (Escape × List Char) := do
  if !flags.unicode then none
  match flags.skip cs with
  | [] => none
  | '\x7b' :: cs =>
    let (text, rest) ← takeBraced? flags.verbose false cs
    let (set, others) ← propertySet? text
    return (.set (← flags.negateSet? (negated != others) (flags.foldSet set)), rest)
  | c :: rest =>
    if c == '\\' then none
    let set ← CharSet.named? c.toString
    return (.set (← flags.negateSet? negated (flags.foldSet set)), flags.skip rest)

/-- The set of digits, blanks or word characters. -/
def shorthand? (flags : Flags) (letter : Char) : Option CharSet :=
  let pick (unicode ascii : CharSet) := if flags.unicode then unicode else ascii
  let set? :=
    match letter.toLower with
    | 'd' => some (pick CharSet.digit CharSet.asciiDigit)
    | 's' => some (pick CharSet.space CharSet.asciiSpace)
    | 'w' => some (pick CharSet.word CharSet.asciiWord)
    | _ => none
  set?.bind (flags.negateSet? letter.isUpper)

/-- A character of the name of a special word boundary. -/
def isBoundaryChar (c : Char) : Bool :=
  c.isAlpha || c == '-'

/-- The word boundary that a name in braces stands for. -/
def boundary? (ascii : Bool) : String → Option Look
  | "start" => some (.wordStart ascii)
  | "end" => some (.wordEnd ascii)
  | "start-half" => some (.noWordBefore ascii)
  | "end-half" => some (.noWordAfter ascii)
  | _ => none

/-- A word boundary, `\b` taken; a name in braces may follow, a count in braces does not belong to
it. -/
def readBoundary? (flags : Flags) (cs : List Char) : Option (Escape × List Char) :=
  let ascii := !flags.unicode
  match cs with
  | '\x7b' :: inner =>
    match flags.skip inner with
    | [] => none
    | c :: _ =>
      if !isBoundaryChar c then some (.look (.wordBoundary ascii), cs)
      else do
        let (text, rest) ← takeBraced? flags.verbose false inner
        let look ← boundary? ascii (String.ofList text)
        return (.look look, rest)
  | cs => some (.look (.wordBoundary ascii), cs)

/-- A character with a meaning of its own in patterns. -/
def isMeta (c : Char) : Bool :=
  "\\.+*?()|[]\x7b\x7d^$#&-~".toList.contains c

/-- What follows a backslash. -/
def readEscape? (flags : Flags) (cs : List Char) : Option (Escape × List Char) :=
  match cs with
  | [] => none
  | c :: cs =>
    let ascii := !flags.unicode
    match c with
    | 'x' => readHex? flags 2 cs
    | 'u' => readHex? flags 4 cs
    | 'U' => readHex? flags 8 cs
    | 'p' => readProperty? flags false cs
    | 'P' => readProperty? flags true cs
    | 'd' | 's' | 'w' | 'D' | 'S' | 'W' => (shorthand? flags c).map fun set => (.set set, cs)
    | 'a' => some (.char '\x07', cs)
    | 'f' => some (.char '\x0c', cs)
    | 't' => some (.char '\t', cs)
    | 'n' => some (.char '\n', cs)
    | 'r' => some (.char '\r', cs)
    | 'v' => some (.char '\x0b', cs)
    | 'A' => some (.look .textStart, cs)
    | 'z' => some (.look .textEnd, cs)
    | 'b' => readBoundary? flags cs
    | 'B' => some (.look (.noWordBoundary ascii), cs)
    | '<' => some (.look (.wordStart ascii), cs)
    | '>' => some (.look (.wordEnd ascii), cs)
    | c => if isMeta c || (c.toNat < 128 && !c.isAlphanum) then some (.char c, cs) else none

end Costing.Regex
