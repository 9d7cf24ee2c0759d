import Costing.Text.Blank
import Costing.Text.Search
import Costing.Value.Document

/-!
# Logic

The settings of a calculator: declared params, wirings of params to the data around an offer,
variables that are computed in order, and mappings of variables to results.
-/

namespace Costing

/-- A param that a calculator declares. -/
structure Param where
  name : String
  declaredType : Option String
deriving Repr, DecidableEq

/-- The wiring of a param to a path in the data around an offer. -/
structure Wiring where
  paramName : String
  sourcePath : String
deriving Repr, DecidableEq

/-- The names in the data around an offer that no formula and no wiring may read. -/
def forbiddenRoots : List String := ["selectedOffers"]

/-- A variable, given by a formula or by a value. -/
structure Variable where
  name : String
  formula : Option String
  value : Option Value
deriving Repr

/-- What defines a variable. -/
inductive VariableBody where
  | formula (text : String)
  | value (v : Value)
  | empty
deriving Repr

/-- What defines a variable: its formula unless that is blank, else its value. -/
def Variable.body (v : Variable) : VariableBody :=
  match v.formula, v.value with
  | some formula, some value =>
    if Text.isAllBlank formula then .value value else .formula formula
  | some formula, none => if Text.isAllBlank formula then .empty else .formula formula
  | none, some value => .value value
  | none, none => .empty

/-- Variables in the order they are computed in. -/
structure Logic where
  vars : List Variable
deriving Repr

/-- The mapping of a result to a variable or an input. -/
structure OutputMapping where
  key : String
  sourceRef : String
deriving Repr, DecidableEq

/-- A calculator. -/
structure Calculator where
  id : String
  name : Option String
  params : List Param
  logic : Logic
deriving Repr

/-- The results that every stage should have. -/
inductive RequiredResult where
  | width
  | length
  | height
  | weight
  | purchasingPrice
  | basePrice
deriving Repr, DecidableEq

namespace RequiredResult

/-- All required results. -/
def all : List RequiredResult :=
  [width, length, height, weight, purchasingPrice, basePrice]

/-- The name of a result. -/
def name : RequiredResult → String
  | width => "width"
  | length => "length"
  | height => "height"
  | weight => "weight"
  | purchasingPrice => "purchasingPrice"
  | basePrice => "basePrice"

/-- The result with a name. -/
def ofName? (name : String) : Option RequiredResult :=
  all.find? (·.name == name)

end RequiredResult

/-- What an output is stored as. -/
inductive ResultKey where
  | required (r : RequiredResult)
  | custom (slug title : String)
deriving Repr, DecidableEq

/-- Why a text is no result key. -/
inductive ResultKeyFault where
  | noPair (key : String)
  | invalidSlug (key : String)
  | missingTitle (key : String)
deriving Repr, DecidableEq

/-- The wording of a fault. -/
def ResultKeyFault.message : ResultKeyFault → String
  | .noPair key => "Invalid result key: '" ++ key ++ "' is not a result name or slug|title pair"
  | .invalidSlug key => "Invalid result key: invalid slug in '" ++ key ++ "'"
  | .missingTitle key => "Invalid result key: missing title in '" ++ key ++ "'"

namespace ResultKey

/-- A character of a slug. -/
def isSlugChar (c : Char) : Bool :=
  c.isAlphanum || c == '_' || c == '-'

/-- The key that a text means: a required result, or a slug and a title with a bar between them. -/
def parse (text : String) : Except ResultKeyFault ResultKey :=
  let key := Text.trim text
  match RequiredResult.ofName? key with
  | some r => .ok (.required r)
  | none =>
    match Text.cutAt? key '|' with
    | none => .error (.noPair key)
    | some (slug, title) =>
      let slug := Text.trim slug
      let title := Text.trim title
      if slug.isEmpty || !slug.toList.all isSlugChar then .error (.invalidSlug key)
      else if title.isEmpty then .error (.missingTitle key)
      else .ok (.custom slug title)

/-- The name that an output is stored under. -/
def name : ResultKey → String
  | required r => r.name
  | custom slug _ => slug

end ResultKey

end Costing
