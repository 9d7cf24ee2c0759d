import Costing.Logic.Basic

/-!
# Product

What an offer is made of.  Details are parts, bindings group details and other bindings; both own
stages, the steps that cost something.  Bindings are meant to form no cycle, but nothing here rules
one out; of items with one id the first counts.
-/

namespace Costing

/-- A row of an options mapping: the variants chosen when the property has the value `when`. -/
structure VariantOption where
  when : String
  operationVariantId : Option String
  materialVariantId : Option String
deriving Repr, DecidableEq

/-- The choice of variants by a property of the offer. -/
structure OptionsMapping where
  property : String
  entries : List VariantOption
deriving Repr, DecidableEq

/-- A costed step.  Flat prices apply when its calculator maps no result, at the stage's quantity or
else at that of the offer. -/
structure Stage where
  id : String
  title : Option String := none
  calculatorId : Option String := none
  operationVariantId : Option String := none
  materialVariantId : Option String := none
  equipmentId : Option String := none
  quantity : Option Float := none
  inputs : List Wiring := []
  outputs : List OutputMapping := []
  optionsMapping : Option OptionsMapping := none
  operationPrice : Option Float := none
  materialPrice : Option Float := none
  currency : Option String := none
deriving Repr

/-- A part. -/
structure Detail where
  id : String
  name : Option String := none
  stages : List Stage := []
deriving Repr

/-- A group of details and bindings. -/
structure Binding where
  id : String
  name : Option String := none
  stages : List Stage := []
  detailIds : List String := []
  bindingIds : List String := []
deriving Repr

/-- The two kinds of items. -/
inductive ItemKind where
  | detail
  | binding
deriving Repr, DecidableEq

/-- How a kind is written. -/
def ItemKind.name : ItemKind → String
  | .detail => "detail"
  | .binding => "binding"

/-- A reference to an item. -/
structure ItemRef where
  kind : ItemKind
  id : String
deriving Repr, DecidableEq

/-- The details and bindings of an offer, and those it consists of if they are given. -/
structure Product where
  details : List Detail := []
  bindings : List Binding := []
  roots : List ItemRef := []
deriving Repr

namespace Product

/-- The first detail with an id. -/
def detail? (p : Product) (id : String) : Option Detail :=
  p.details.find? (·.id == id)

/-- The first binding with an id. -/
def binding? (p : Product) (id : String) : Option Binding :=
  p.bindings.find? (·.id == id)

/-- All stages, those of details first. -/
def stages (p : Product) : List Stage :=
  p.details.flatMap Detail.stages ++ p.bindings.flatMap Binding.stages

/-- The first stage with an id. -/
def stage? (p : Product) (id : String) : Option Stage :=
  p.stages.find? (·.id == id)

/-- The details that some binding contains. -/
def childDetailIds (p : Product) : List String :=
  p.bindings.flatMap Binding.detailIds

/-- The bindings that some binding contains. -/
def childBindingIds (p : Product) : List String :=
  p.bindings.flatMap Binding.bindingIds

/-- The items that no binding contains, details first. -/
def unreferenced (p : Product) : List ItemRef :=
  (p.details.filter fun d => !p.childDetailIds.contains d.id).map (⟨.detail, ·.id⟩) ++
    (p.bindings.filter fun b => !p.childBindingIds.contains b.id).map (⟨.binding, ·.id⟩)

/-- What the offer consists of: the given items, or those that no binding contains. -/
def topLevel (p : Product) : List ItemRef :=
  if p.roots.isEmpty then p.unreferenced else p.roots

end Product

end Costing
