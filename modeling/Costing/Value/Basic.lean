import Costing.Dict

/-!
# Value

The values that formulas compute with and that the data around an offer holds.
-/

namespace Costing

/-- A dynamically typed value; the fields of a record are in key order. -/
inductive Value where
  | null
  | bool (b : Bool)
  | number (x : Float)
  | string (s : String)
  | array (items : List Value)
  | record (fields : List (String × Value))
deriving Repr, Inhabited

namespace Value

/-- The word for the kind of a value in diagnostics. -/
def kindName : Value → String
  | null => "null"
  | bool _ => "bool"
  | number _ => "number"
  | string _ => "string"
  | array _ => "array"
  | record _ => "record"

/-- Absent. -/
def isNull : Value → Bool
  | null => true
  | _ => false

/-- The number of a finite number. -/
def finite? : Value → Option Float
  | number x => if x.isFinite then some x else none
  | _ => none

/-- Whether a value was produced: not null and, for a number, finite. -/
def isPresent : Value → Bool
  | null => false
  | number x => (number x).finite?.isSome
  | _ => true

theorem isPresent_number (x : Float) : (number x).isPresent = x.isFinite := by
  rw [isPresent, finite?]
  cases x.isFinite <;> rfl

/-- The record of a dictionary. -/
def ofDict (d : Dict Value) : Value :=
  record d.entries

/-- The record of some named values; of two with one name the later counts. -/
def ofFields (fields : List (String × Value)) : Value :=
  record (Entries.ofList fields)

/-- A number that may be missing. -/
def ofNumber? : Option Float → Value
  | some x => number x
  | none => null

/-- A text that may be missing. -/
def ofString? : Option String → Value
  | some s => string s
  | none => null

mutual

/-- The equality of the language: numbers compare as numbers, so NaN differs from itself and the two
zeros are equal. -/
def same : Value → Value → Bool
  | null, null => true
  | bool a, bool b => a == b
  | number x, number y => x == y
  | string s, string t => s == t
  | array xs, array ys => sameItems xs ys
  | record xs, record ys => sameFields xs ys
  | _, _ => false

/-- Equality item by item. -/
def sameItems : List Value → List Value → Bool
  | [], [] => true
  | x :: xs, y :: ys => same x y && sameItems xs ys
  | _, _ => false

/-- Equality field by field. -/
def sameFields : List (String × Value) → List (String × Value) → Bool
  | [], [] => true
  | (k, x) :: xs, (l, y) :: ys => k == l && same x y && sameFields xs ys
  | _, _ => false

end

end Value

end Costing
