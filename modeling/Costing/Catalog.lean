import Costing.Logic.Document

/-!
# Catalog

The calculators and the variants of operations and materials that stages refer to by id.
-/

namespace Costing

/-- The two kinds of variants. -/
inductive VariantKind where
  | operation
  | material
deriving Repr, DecidableEq

/-- Calculators and variants; of calculators with one id the first counts. -/
structure Catalog where
  calculators : List Calculator
  operationVariants : Dict Value
  materialVariants : Dict Value

namespace Catalog

/-- A catalog of nothing. -/
def empty : Catalog := ⟨[], .empty, .empty⟩

/-- The first calculator with an id. -/
def calculator? (c : Catalog) (id : String) : Option Calculator :=
  c.calculators.find? (·.id == id)

/-- The variant of a kind with an id. -/
def variant? (c : Catalog) (kind : VariantKind) (id : String) : Option Value :=
  match kind with
  | .operation => c.operationVariants.get? id
  | .material => c.materialVariants.get? id

/-- Variants by id. -/
def variantsOfJson? (field : Option Json) : Option (Dict Value) :=
  (Json.optional? (Json.members? Value.ofJson?) [] field).map Dict.ofList

/-- The catalog of a document. -/
def ofJson? [Json.Codec] (j : Json) : Option Catalog := do
  match ← j.fields? [["calculators"], ["operationVariants"], ["materialVariants"]] with
  | [calculators, operationVariants, materialVariants] =>
    return {
      calculators := ← Json.optional? (Json.list? Calculator.ofJson?) [] calculators
      operationVariants := ← variantsOfJson? operationVariants
      materialVariants := ← variantsOfJson? materialVariants }
  | _ => none

end Catalog

end Costing
