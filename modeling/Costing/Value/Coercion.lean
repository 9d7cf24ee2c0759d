import Costing.Json.Codec
import Costing.Number.Layout
import Costing.Number.Literal
import Costing.Value.Document

/-!
# Value — Coercion

How a value counts as a number, as a truth value and as text.  Only `numeric?` decides between adding
and concatenating; `toNumber` is what arithmetic applies, where an absent value is NaN and so spoils
the result instead of counting as zero.
-/

namespace Costing.Value

/-- A character of decimal notation. -/
def isNumericChar (c : Char) : Bool :=
  c.isDigit || c == '.' || c == 'e' || c == 'E' || c == '+' || c == '-'

/-- The finite number that a text writes in decimal notation, blanks around it allowed. -/
def readNumeric? (s : String) : Option Float :=
  let cs := Text.trimChars s.toList
  if cs.isEmpty || !cs.all isNumericChar then none
  else (Number.readDecimal? cs).filter Float.isFinite

/-- Integers below `10 ^ 15` in plain digits, all else with the fewest digits that read back. -/
def numberText (x : Float) : String :=
  if x.isNaN then "NaN"
  else if x.isInf then if x > 0 then "Infinity" else "-Infinity"
  else if Number.isWhole x && x.abs < 1e15 then toString (Number.truncate x)
  else Number.plain.render x

/-- The number of a number or of a text that looks like one. -/
def numeric? : Value → Option Float
  | number x => some x
  | string s => readNumeric? s
  | _ => none

/-- The number that arithmetic takes a value for. -/
def toNumber : Value → Float
  | number x => x
  | bool b => if b then 1 else 0
  | string s => if Text.isAllBlank s then 0 else (readNumeric? s).getD (0.0 / 0.0)
  | null | array _ | record _ => 0.0 / 0.0

/-- The truth value that conditions take a value for. -/
def truthy : Value → Bool
  | null => false
  | bool b => b
  | number x => x != 0 && !x.isNaN
  | string s => !s.isEmpty
  | array _ | record _ => true

mutual

/-- The text of a value: items of an array are separated by commas, a record is its document. -/
def toText [Json.Codec] : Value → String
  | null => ""
  | bool b => if b then "true" else "false"
  | number x => numberText x
  | string s => s
  | array items => ",".intercalate (itemTexts items)
  | record fields => (Value.record fields).toJson.compact

/-- The texts of items. -/
def itemTexts [Json.Codec] : List Value → List String
  | [] => []
  | item :: rest => toText item :: itemTexts rest

end

end Costing.Value
