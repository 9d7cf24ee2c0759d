import Costing.Json.Basic
import Costing.Number.Layout

/-!
# Json — Writer

The text of a document: `line` without blanks, `lines` with two spaces a level.
-/

namespace Costing.Json

/-- Numbers have the fewest digits that read back and always a point, and are scientific below `1e-5`
and from `1e16` on. -/
def numberLayout : Number.Layout where
  tie := .even
  positional := some (-5, 16)
  pointZero := true

/-- Numbers without a decimal text are written as null. -/
def numberText (x : Float) : String :=
  if x.isFinite then numberLayout.render x else "null"

/-- A hexadecimal digit in lower case. -/
def hexDigit (n : Nat) : Char :=
  (Nat.toDigits 16 n).headD '0'

/-- How a character is written between quotes. -/
def escapeChar (c : Char) : List Char :=
  match c with
  | '"' => ['\\', '"']
  | '\\' => ['\\', '\\']
  | '\n' => ['\\', 'n']
  | '\r' => ['\\', 'r']
  | '\t' => ['\\', 't']
  | c =>
    if c.toNat == 8 then ['\\', 'b']
    else if c.toNat == 12 then ['\\', 'f']
    else if c.toNat < 32 then
      ['\\', 'u', '0', '0', hexDigit (c.toNat / 16), hexDigit (c.toNat % 16)]
    else [c]

/-- A text between quotes. -/
def quoted (s : String) : String :=
  String.ofList ('"' :: s.toList.flatMap escapeChar ++ ['"'])

mutual

/-- The text of a document on one line. -/
def line : Json → String
  | null => "null"
  | bool b => if b then "true" else "false"
  | natural n => toString n
  | number x => numberText x
  | string s => quoted s
  | array items => "[" ++ ",".intercalate (itemLines items) ++ "]"
  | object members => "\x7b" ++ ",".intercalate (memberLines members) ++ "\x7d"
  | unreadable => "null"

/-- The texts of the items of an array. -/
def itemLines : List Json → List String
  | [] => []
  | item :: rest => line item :: itemLines rest

/-- The texts of the members of an object. -/
def memberLines : List (String × Json) → List String
  | [] => []
  | (name, value) :: rest => (quoted name ++ ":" ++ line value) :: memberLines rest

end

/-- A new line, indented to a level. -/
def newline (level : Nat) : String :=
  String.ofList ('\n' :: List.replicate (2 * level) ' ')

/-- Parts on lines of their own between brackets; no line when there is no part. -/
def block (opening closing : String) (level : Nat) (parts : List String) : String :=
  if parts.isEmpty then opening ++ closing
  else
    opening ++ newline (level + 1) ++ ("," ++ newline (level + 1)).intercalate parts ++
      newline level ++ closing

mutual

/-- The text of a document with its parts on lines of their own, from a level on. -/
def prettyAt (level : Nat) : Json → String
  | array items => block "[" "]" level (prettyItems (level + 1) items)
  | object members => block "\x7b" "\x7d" level (prettyMembers (level + 1) members)
  | leaf => line leaf

/-- The texts of the items of an array. -/
def prettyItems (level : Nat) : List Json → List String
  | [] => []
  | item :: rest => prettyAt level item :: prettyItems level rest

/-- The texts of the members of an object. -/
def prettyMembers (level : Nat) : List (String × Json) → List String
  | [] => []
  | (name, value) :: rest =>
    (quoted name ++ ": " ++ prettyAt level value) :: prettyMembers level rest

end

/-- The text of a document with two spaces of indentation a level. -/
def lines (j : Json) : String :=
  prettyAt 0 j

end Costing.Json
