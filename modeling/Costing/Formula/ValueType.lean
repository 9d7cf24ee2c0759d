import Costing.Path
import Costing.Text.Search
import Costing.Value.Basic

/-!
# Formula — ValueType

What is known of a value before it is computed.
-/

namespace Costing.Formula

/-- The type of an expression; `any` cannot be known before evaluation, `unknown` is not resolved. -/
inductive ValueType where
  | number
  | string
  | bool
  | array
  | any
  | unknown
deriving Repr, DecidableEq

namespace ValueType

/-- How a type is written. -/
def name : ValueType → String
  | number => "number"
  | string => "string"
  | bool => "bool"
  | array => "array"
  | any => "any"
  | unknown => "unknown"

/-- The type that a declaration names. -/
def ofDeclared (declared : String) : ValueType :=
  match (Text.trim declared).toLower with
  | "number" | "numeric" | "int" | "integer" | "float" | "decimal" => number
  | "string" | "text" => string
  | "bool" | "boolean" => bool
  | "array" | "list" => array
  | "any" | "object" => any
  | _ => unknown

/-- The type of a value. -/
def ofValue : Value → ValueType
  | .number _ => number
  | .string _ => string
  | .bool _ => bool
  | .array _ => array
  | .null | .record _ => any

/-- Known: a number, string, truth value or array. -/
def isConcrete : ValueType → Bool
  | any | unknown => false
  | _ => true

/-- Accepted where a number is needed. -/
def isNumericCompatible : ValueType → Bool
  | number | any | unknown => true
  | _ => false

/-- The common type of two branches. -/
def unify (a b : ValueType) : ValueType :=
  if a = b then a else if a = unknown ∨ b = unknown then unknown else any

end ValueType

end Costing.Formula
