import Costing.Json.Codec
import Costing.Json.Decode
import Costing.Logic.Basic

/-!
# Logic — Document

Settings as documents.  Logic is written as a list of variables, as an object with the list under
`vars` or, inside a calculator, as a text that holds either.
-/

namespace Costing

/-- The param of a document. -/
def Param.ofJson? (j : Json) : Option Param := do
  match ← j.fields? [["name"], ["declaredType", "type"]] with
  | [name, declaredType] =>
    return {
      name := ← Json.required? Json.string? name
      declaredType := ← Json.optional? (Json.nullable? Json.string?) none declaredType }
  | _ => none

/-- The wiring of a document. -/
def Wiring.ofJson? (j : Json) : Option Wiring := do
  match ← j.fields? [["paramName", "param"], ["sourcePath", "path"]] with
  | [paramName, sourcePath] =>
    return {
      paramName := ← Json.required? Json.string? paramName
      sourcePath := ← Json.required? Json.string? sourcePath }
  | _ => none

/-- The output mapping of a document. -/
def OutputMapping.ofJson? (j : Json) : Option OutputMapping := do
  match ← j.fields? [["key"], ["sourceRef", "source", "var"]] with
  | [key, sourceRef] =>
    return {
      key := ← Json.required? Json.string? key
      sourceRef := ← Json.required? Json.string? sourceRef }
  | _ => none

namespace Variable

/-- The variable of a document; null counts as left out. -/
def ofJson? (j : Json) : Option Variable := do
  match ← j.fields? [["name"], ["formula"], ["value"]] with
  | [name, formula, value] =>
    return {
      name := ← Json.required? Json.string? name
      formula := ← Json.optional? (Json.nullable? Json.string?) none formula
      value := ← Json.optional? (Json.nullable? Value.ofJson?) none value }
  | _ => none

/-- The document of a variable, what is left out left out. -/
def toJson (v : Variable) : Json :=
  .object ([("name", .string v.name)] ++
    (v.formula.map fun f => ("formula", Json.string f)).toList ++
    (v.value.map fun x => ("value", x.toJson)).toList)

end Variable

/-- Why a text holds no logic. -/
inductive LogicFault where
  /-- The text holds a text. -/
  | string
  | undecodable
deriving Repr, DecidableEq

namespace Logic

/-- No variable. -/
def empty : Logic := ⟨[]⟩

/-- The logic of a document that is a list or an object. -/
def ofTree? (j : Json) : Option Logic :=
  if !j.isReadable then none
  else
    match j with
    | .array _ => (Json.list? Variable.ofJson? j).map Logic.mk
    | .object members => do
      let vars ← Json.field? ["vars"] members
      return ⟨← Json.required? (Json.list? Variable.ofJson?) vars⟩
    | _ => none

/-- The logic that a text holds; a blank text holds none. -/
def read [Json.Codec] (text : String) : Except LogicFault Logic :=
  if Text.isAllBlank text then .ok empty
  else
    match Json.read? text with
    | some (.string _) => .error .string
    | some j =>
      match ofTree? j with
      | some logic => .ok logic
      | none => .error .undecodable
    | none => .error .undecodable

/-- The logic of a document inside a calculator. -/
def ofJson? [Json.Codec] : Json → Option Logic
  | .string text => (read text).toOption
  | j => ofTree? j

/-- The document of logic. -/
def toJson (l : Logic) : Json :=
  .object [("vars", .array (l.vars.map Variable.toJson))]

end Logic

/-- The calculator of a document. -/
def Calculator.ofJson? [Json.Codec] (j : Json) : Option Calculator := do
  match ← j.fields? [["id"], ["name"], ["params"], ["logic", "logicJson"]] with
  | [id, name, params, logic] =>
    return {
      id := ← Json.required? Json.string? id
      name := ← Json.optional? (Json.nullable? Json.string?) none name
      params := ← Json.optional? (Json.list? Param.ofJson?) [] params
      logic := ← Json.optional? Logic.ofJson? .empty logic }
  | _ => none

end Costing
