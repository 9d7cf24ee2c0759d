import Costing.Logic.Document
import Costing.Product.Basic

/-!
# Product — Document

Products as documents.
-/

namespace Costing

/-- A text that may be missing or null. -/
def optionalText? (field : Option Json) : Option (Option String) :=
  Json.optional? (Json.nullable? Json.string?) none field

/-- A number that may be missing or null. -/
def optionalNumber? (field : Option Json) : Option (Option Float) :=
  Json.optional? (Json.nullable? Json.number?) none field

/-- A list that may be missing. -/
def optionalList? {α : Type} (item : Json → Option α) (field : Option Json) : Option (List α) :=
  Json.optional? (Json.list? item) [] field

/-- The options row of a document. -/
def VariantOption.ofJson? (j : Json) : Option VariantOption := do
  match ← j.fields? [["when"], ["operationVariantId"], ["materialVariantId"]] with
  | [value, operation, material] =>
    return {
      when := ← Json.required? Json.string? value
      operationVariantId := ← optionalText? operation
      materialVariantId := ← optionalText? material }
  | _ => none

/-- The options mapping of a document. -/
def OptionsMapping.ofJson? (j : Json) : Option OptionsMapping := do
  match ← j.fields? [["property"], ["entries"]] with
  | [property, entries] =>
    return {
      property := ← Json.required? Json.string? property
      entries := ← optionalList? VariantOption.ofJson? entries }
  | _ => none

/-- The stage of a document. -/
def Stage.ofJson? (j : Json) : Option Stage := do
  match ← j.fields? [["id"], ["title"], ["calculatorId"], ["operationVariantId"],
      ["materialVariantId"], ["equipmentId"], ["quantity"], ["inputs"], ["outputs"],
      ["optionsMapping"], ["operationPrice"], ["materialPrice"], ["currency"]] with
  | [id, title, calculatorId, operationVariantId, materialVariantId, equipmentId, quantity, inputs,
      outputs, optionsMapping, operationPrice, materialPrice, currency] =>
    return {
      id := ← Json.required? Json.string? id
      title := ← optionalText? title
      calculatorId := ← optionalText? calculatorId
      operationVariantId := ← optionalText? operationVariantId
      materialVariantId := ← optionalText? materialVariantId
      equipmentId := ← optionalText? equipmentId
      quantity := ← optionalNumber? quantity
      inputs := ← optionalList? Wiring.ofJson? inputs
      outputs := ← optionalList? OutputMapping.ofJson? outputs
      optionsMapping :=
        ← Json.optional? (Json.nullable? OptionsMapping.ofJson?) none optionsMapping
      operationPrice := ← optionalNumber? operationPrice
      materialPrice := ← optionalNumber? materialPrice
      currency := ← optionalText? currency }
  | _ => none

/-- The detail of a document. -/
def Detail.ofJson? (j : Json) : Option Detail := do
  match ← j.fields? [["id"], ["name"], ["stages"]] with
  | [id, name, stages] =>
    return {
      id := ← Json.required? Json.string? id
      name := ← optionalText? name
      stages := ← optionalList? Stage.ofJson? stages }
  | _ => none

/-- The binding of a document. -/
def Binding.ofJson? (j : Json) : Option Binding := do
  match ← j.fields? [["id"], ["name"], ["stages"], ["detailIds"], ["bindingIds"]] with
  | [id, name, stages, detailIds, bindingIds] =>
    return {
      id := ← Json.required? Json.string? id
      name := ← optionalText? name
      stages := ← optionalList? Stage.ofJson? stages
      detailIds := ← optionalList? Json.string? detailIds
      bindingIds := ← optionalList? Json.string? bindingIds }
  | _ => none

/-- The kind of item that a document names. -/
def ItemKind.ofJson? (j : Json) : Option ItemKind :=
  match j.caseName? with
  | some "detail" => some .detail
  | some "binding" => some .binding
  | _ => none

namespace ItemRef

/-- The reference of a document. -/
def ofJson? (j : Json) : Option ItemRef := do
  match ← j.fields? [["kind"], ["id"]] with
  | [kind, id] => return ⟨← Json.required? ItemKind.ofJson? kind, ← Json.required? Json.string? id⟩
  | _ => none

/-- The document of a reference. -/
def toJson (r : ItemRef) : Json :=
  .object [("kind", .string r.kind.name), ("id", .string r.id)]

end ItemRef

/-- The product of a document. -/
def Product.ofJson? (j : Json) : Option Product := do
  match ← j.fields? [["details"], ["bindings"], ["roots"]] with
  | [details, bindings, roots] =>
    return {
      details := ← optionalList? Detail.ofJson? details
      bindings := ← optionalList? Binding.ofJson? bindings
      roots := ← optionalList? ItemRef.ofJson? roots }
  | _ => none

end Costing
