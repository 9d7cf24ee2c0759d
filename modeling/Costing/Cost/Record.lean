import Costing.Value.Basic

/-!
# Cost — Record

What a stage, an item or an offer costs.  A cost that is absent differs from zero: a sum is absent
only if all its parts are.  Amounts are of any type that can be added.
-/

namespace Costing

/-- How a cost was arrived at. -/
inductive CostSource where
  /-- Calculator logic mapped a result. -/
  | logicApplied
  /-- Logic mapped nothing, so flat prices were taken. -/
  | fallbackApplied
  /-- Nothing gave a cost. -/
  | unresolved
deriving Repr, DecidableEq

namespace CostSource

/-- How a source is written. -/
def name : CostSource → String
  | logicApplied => "logicApplied"
  | fallbackApplied => "fallbackApplied"
  | unresolved => "unresolved"

/-- The source of a whole: parts without a cost do not count, and a flat price in any part shows. -/
def combine : CostSource → CostSource → CostSource
  | unresolved, s | s, unresolved => s
  | fallbackApplied, _ | _, fallbackApplied => fallbackApplied
  | logicApplied, logicApplied => logicApplied

end CostSource

/-- The costs of a stage, an item or an offer; `vars` are the variables and `outputs` the results of a
stage. -/
structure CostRecord (α : Type) where
  operationCost : Option α := none
  materialCost : Option α := none
  totalCost : Option α := none
  currency : Option String := none
  source : CostSource := .unresolved
  logicApplied : Bool := false
  vars : Dict Value := .empty
  outputs : Dict Value := .empty

/-- The sum of two costs that may be absent. -/
def addCosts {α : Type} [Add α] : Option α → Option α → Option α
  | some x, some y => some (x + y)
  | some x, none => some x
  | none, cost => cost

namespace CostRecord

variable {α : Type}

/-- No cost. -/
def none : CostRecord α := {}

/-- What a binding adds that is reached again from inside itself. -/
def zero [OfNat α 0] : CostRecord α :=
  { operationCost := some 0, materialCost := some 0, totalCost := some 0 }

/-- A whole with one more part; its currency is that of the first part that has one. -/
def addPart [Add α] (whole part : CostRecord α) : CostRecord α :=
  { whole with
    operationCost := addCosts whole.operationCost part.operationCost
    materialCost := addCosts whole.materialCost part.materialCost
    totalCost := addCosts whole.totalCost part.totalCost
    currency := whole.currency.or part.currency
    source := whole.source.combine part.source
    logicApplied := whole.logicApplied || part.logicApplied }

/-- The record of a whole with some parts in order. -/
def aggregate [Add α] (parts : List (CostRecord α)) : CostRecord α :=
  parts.foldl addPart none

end CostRecord

end Costing
