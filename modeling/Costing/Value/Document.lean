import Costing.Json.Basic
import Costing.Value.Basic

/-!
# Value — Document

Values as documents and documents as values.
-/

namespace Costing.Value

mutual

/-- The document of a value. -/
def toJson : Value → Json
  | null => .null
  | bool b => .bool b
  | number x => .number x
  | string s => .string s
  | array items => .array (itemsToJson items)
  | record fields => .object (fieldsToJson fields)

/-- The documents of items. -/
def itemsToJson : List Value → List Json
  | [] => []
  | item :: rest => toJson item :: itemsToJson rest

/-- The members of fields. -/
def fieldsToJson : List (String × Value) → List (String × Json)
  | [] => []
  | (name, value) :: rest => (name, toJson value) :: fieldsToJson rest

end

mutual

/-- The value of a document; of two members with one name the later counts. -/
def ofJson? : Json → Option Value
  | .null => some null
  | .bool b => some (bool b)
  | .natural n => some (number (Float.ofNat n))
  | .number x => some (number x)
  | .string s => some (string s)
  | .array items => (itemsOfJson? items).map array
  | .object members => (fieldsOfJson? members).map ofFields
  | .unreadable => none

/-- The values of documents. -/
def itemsOfJson? : List Json → Option (List Value)
  | [] => some []
  | item :: rest => do return (← ofJson? item) :: (← itemsOfJson? rest)

/-- The fields of members. -/
def fieldsOfJson? : List (String × Json) → Option (List (String × Value))
  | [] => some []
  | (name, item) :: rest => do return (name, ← ofJson? item) :: (← fieldsOfJson? rest)

end

end Costing.Value
