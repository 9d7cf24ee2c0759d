import Costing.Formula.Token
import Costing.Logic.Basic
import Costing.Formula.ValueType

/-!
# Validation — Name

Which names params and variables may have, and what the last name of a path tells about the value at
its end.
-/

namespace Costing.Validation

open Costing.Formula (isNameStart isNameChar wordOperator? ValueType)

/-- Whether characters have the form of a name. -/
def hasNameForm : List Char → Bool
  | [] => false
  | c :: cs => isNameStart c && cs.all isNameChar

/-- The words that formulas read as literals. -/
def literalWords : List String := ["true", "false", "null"]

/-- Whether a param or a variable may have a name: a formula of it alone reads it. -/
def isValidName (name : String) : Bool :=
  hasNameForm name.toList && (wordOperator? name).isNone && !literalWords.contains name

/-- Parts of names of numbers. -/
def numericParts : List String :=
  ["price", "cost", "quantity", "qty", "amount", "count", "area", "volume", "thickness", "density"]

/-- Ends of names of texts. -/
def textualEnds : List String :=
  ["name", "title", "code", "label", "sku", "description"]

/-- The type that the name of a value tells. -/
def typeOfKey (key : String) : ValueType :=
  if (RequiredResult.ofName? key).isSome then .number
  else
    let key := key.toLower
    if numericParts.any (Text.contains key) then .number
    else if textualEnds.any (Text.endsWith key) then .string
    else .unknown

/-- The type that the last name of a path tells. -/
def typeOfPath (path : String) : ValueType :=
  match Path.parse path with
  | .ok segments =>
    match segments.reverse.findSome? Segment.key? with
    | some key => typeOfKey key
    | none => .unknown
  | .error _ => .unknown

end Costing.Validation
