import Costing.Cost.Offer

/-!
# Cost — Document

The documents of costs.  The fields of a cost record stand among those of the stage or item that they
belong to.
-/

namespace Costing

/-- The document of a dictionary. -/
def Dict.toJson {α : Type} (value : α → Json) (d : Dict α) : Json :=
  .object (d.entries.map fun (key, x) => (key, value x))

/-- The document of a list of texts. -/
def textsToJson (texts : List String) : Json :=
  .array (texts.map .string)

/-- The members of a cost record. -/
def CostRecord.members (r : CostRecord Float) : List (String × Json) := [
  ("operationCost", .ofNumber? r.operationCost),
  ("materialCost", .ofNumber? r.materialCost),
  ("totalCost", .ofNumber? r.totalCost),
  ("currency", .ofString? r.currency),
  ("source", .string r.source.name),
  ("logicApplied", .bool r.logicApplied),
  ("variables", r.vars.toJson Value.toJson),
  ("outputs", r.outputs.toJson Value.toJson)]

/-- The document of a cost record. -/
def CostRecord.toJson (r : CostRecord Float) : Json :=
  .object r.members

/-- The document of what a stage gave. -/
def StageResult.toJson (r : StageResult Float) : Json :=
  .object ([
    ("stageId", .string r.stageId),
    ("title", .ofString? r.title),
    ("index", .natural r.index)] ++ r.cost.members)

/-- The document of what an item cost. -/
def ItemResult.toJson (r : ItemResult Float) : Json :=
  .object ([
    ("kind", .string r.ref.kind.name),
    ("id", .string r.ref.id),
    ("name", .ofString? r.name)] ++ r.cost.members ++ [
    ("stages", .array (r.stages.map StageResult.toJson)),
    ("childDetails", textsToJson r.childDetails),
    ("childBindings", textsToJson r.childBindings)])

/-- The document of counts. -/
def Stats.toJson (s : Stats) : Json :=
  .object [
    ("totalSteps", .natural s.totalSteps),
    ("stagesCalculated", .natural s.stagesCalculated),
    ("logicApplied", .natural s.logicApplied),
    ("fallbacks", .natural s.fallbacks),
    ("unresolved", .natural s.unresolved),
    ("evaluationErrors", .natural s.evaluationErrors),
    ("cycles", textsToJson s.cycles)]

/-- The document of an offer's costs and prices. -/
def OfferResult.toJson (r : OfferResult) : Json :=
  .object [
    ("roots", .array (r.costs.roots.map ItemRef.toJson)),
    ("details", r.costs.details.toJson ItemResult.toJson),
    ("bindings", r.costs.bindings.toJson ItemResult.toJson),
    ("total", r.costs.total.toJson),
    ("prices", r.prices.toJson SalePrice.toJson),
    ("stats", r.costs.stats.toJson)]

end Costing
