import Costing.Cost.Stage
import Costing.Product.Reach

/-!
# Cost — Walk

The costs of all items of a product, from the stages up.  An item that several bindings share is
costed at its first visit.  A binding that is reached again from inside itself counts as zero there
and is noted as a cycle.  A report follows every stage, and the walk may be stopped between stages.
-/

namespace Costing

/-- What a detail or a binding cost. -/
structure ItemResult (α : Type) where
  ref : ItemRef
  name : Option String
  cost : CostRecord α
  stages : List (StageResult α)
  childDetails : List String := []
  childBindings : List String := []

/-- Counts of what happened in a walk, and the bindings that were reached from inside themselves. -/
structure Stats where
  totalSteps : Nat
  stagesCalculated : Nat := 0
  logicApplied : Nat := 0
  fallbacks : Nat := 0
  unresolved : Nat := 0
  evaluationErrors : Nat := 0
  cycles : List String := []
deriving Repr, DecidableEq

/-- Counts one more stage, whose cost has a source and in which some formulas failed. -/
def Stats.countStage (s : Stats) (source : CostSource) (failures : Nat) : Stats :=
  let s := { s with
    stagesCalculated := s.stagesCalculated + 1
    evaluationErrors := s.evaluationErrors + failures }
  match source with
  | .logicApplied => { s with logicApplied := s.logicApplied + 1 }
  | .fallbackApplied => { s with fallbacks := s.fallbacks + 1 }
  | .unresolved => { s with unresolved := s.unresolved + 1 }

/-- The report after a stage: how many of all stages are done. -/
structure Progress where
  current : Nat
  total : Nat
deriving Repr, DecidableEq

/-- A walk that was stopped after some reports. -/
structure Cancelled where
  reports : List Progress
deriving Repr, DecidableEq

/-- The items costed so far, with the reports and counts, and the formulas read so far. -/
structure Walk (α : Type) where
  details : Dict (ItemResult α)
  bindings : Dict (ItemResult α)
  reports : List Progress
  stats : Stats
  cache : Formula.Cache

namespace Walk

variable {α : Type}

/-- Nothing is costed. -/
def start (totalSteps : Nat) (cache : Formula.Cache) : Walk α :=
  ⟨.empty, .empty, [], { totalSteps }, cache⟩

/-- Notes the result of a stage and reports it. -/
def finishStage (w : Walk α) (result : StageResult α × Nat) (cache : Formula.Cache) : Walk α :=
  { w with
    reports := w.reports ++ [⟨w.reports.length + 1, w.stats.totalSteps⟩]
    stats := w.stats.countStage result.1.cost.source result.2
    cache }

/-- Keeps the result of a detail. -/
def putDetail (w : Walk α) (id : String) (item : ItemResult α) : Walk α :=
  { w with details := w.details.put id item }

/-- Keeps the result of a binding. -/
def putBinding (w : Walk α) (id : String) (item : ItemResult α) : Walk α :=
  { w with bindings := w.bindings.put id item }

/-- Notes that a binding was reached from inside itself. -/
def noteCycle (w : Walk α) (id : String) : Walk α :=
  { w with stats := { w.stats with cycles := w.stats.cycles ++ [id] } }

end Walk

/-- A product and how its stages are costed: from the results of the stages before, and with a count
of formulas that failed.  Formulas read before make no difference to a stage.  The walk stops once as
many reports are made as `stopAfter` says. -/
structure Calculation (α : Type) where
  product : Product
  costStage : Stage → List (StageResult α) → Formula.Cache → (StageResult α × Nat) × Formula.Cache
  costStage_fst : ∀ stage done cache,
    (costStage stage done cache).1 = (costStage stage done .empty).1
  stopAfter : Option Nat := none

/-- What a walk gives: the costs of all items and of the whole. -/
structure Rollup (α : Type) where
  roots : List ItemRef
  details : Dict (ItemResult α)
  bindings : Dict (ItemResult α)
  total : CostRecord α
  stats : Stats
  reports : List Progress

namespace Calculation

variable {α : Type}

/-- Whether a walk has to stop. -/
def stops (c : Calculation α) (w : Walk α) : Bool :=
  c.stopAfter.any (· ≤ w.reports.length)

/-- Costs stages one after the other, each after those already done. -/
def visitStages (c : Calculation α) (done : List (StageResult α)) :
    List Stage → Walk α → Except Cancelled (List (StageResult α) × Walk α)
  | [], w => .ok (done, w)
  | stage :: rest, w =>
    if c.stops w then .error ⟨w.reports⟩
    else
      let (result, cache) := c.costStage stage done w.cache
      c.visitStages (done ++ [result.1]) rest (w.finishStage result cache)

variable [Add α]

/-- The result of a detail whose stages are costed. -/
def detailResult (d : Detail) (stages : List (StageResult α)) : ItemResult α :=
  { ref := ⟨.detail, d.id⟩
    name := d.name
    cost := .aggregate (stages.map StageResult.cost)
    stages }

/-- The result of a binding whose parts and stages are costed. -/
def bindingResult (b : Binding) (parts : List (CostRecord α)) (stages : List (StageResult α)) :
    ItemResult α :=
  { ref := ⟨.binding, b.id⟩
    name := b.name
    cost := .aggregate (parts ++ stages.map StageResult.cost)
    stages
    childDetails := b.detailIds
    childBindings := b.bindingIds }

/-- Costs a detail unless it is costed already; an unknown one has no cost. -/
def visitDetail (c : Calculation α) (id : String) (w : Walk α) :
    Except Cancelled (Option (CostRecord α) × Walk α) :=
  match w.details.get? id with
  | some item => .ok (some item.cost, w)
  | none =>
    match c.product.detail? id with
    | none => .ok (none, w)
    | some d => do
      let (stages, w) ← c.visitStages [] d.stages w
      let item := detailResult d stages
      return (some item.cost, w.putDetail id item)

/-- Costs details in order. -/
def visitDetails (c : Calculation α) :
    List String → Walk α → Except Cancelled (List (CostRecord α) × Walk α)
  | [], w => .ok ([], w)
  | id :: rest, w => do
    let (cost, w) ← c.visitDetail id w
    let (costs, w) ← c.visitDetails rest w
    return (cost.toList ++ costs, w)

variable [OfNat α 0]

mutual

/-- Costs a binding unless it is costed already, inside some others; an unknown one has no cost. -/
def visitBinding (c : Calculation α) (ancestors : List String) (id : String) (w : Walk α) :
    Except Cancelled (Option (CostRecord α) × Walk α) :=
  if ha : id ∈ ancestors then .ok (some .zero, w.noteCycle id)
  else
    match w.bindings.get? id with
    | some item => .ok (some item.cost, w)
    | none =>
      match h : c.product.binding? id with
      | none => .ok (none, w)
      | some b => do
        have := unseen_lt (Product.mem_bindingIds h) ha
        let (details, w) ← c.visitDetails b.detailIds w
        let (bindings, w) ← c.visitBindings (id :: ancestors) b.bindingIds w
        let (stages, w) ← c.visitStages [] b.stages w
        let item := bindingResult b (details ++ bindings) stages
        return (some item.cost, w.putBinding id item)
termination_by (unseen c.product.bindingIds ancestors, 0)

/-- Costs bindings in order. -/
def visitBindings (c : Calculation α) (ancestors : List String) (ids : List String) (w : Walk α) :
    Except Cancelled (List (CostRecord α) × Walk α) :=
  match ids with
  | [] => .ok ([], w)
  | id :: rest => do
    let (cost, w) ← c.visitBinding ancestors id w
    let (costs, w) ← c.visitBindings ancestors rest w
    return (cost.toList ++ costs, w)
termination_by (unseen c.product.bindingIds ancestors, ids.length)

end

/-- Costs an item of the top level. -/
def visitRoot (c : Calculation α) (root : ItemRef) (w : Walk α) :
    Except Cancelled (Option (CostRecord α) × Walk α) :=
  match root.kind with
  | .detail => c.visitDetail root.id w
  | .binding => c.visitBinding [] root.id w

/-- Costs items of the top level in order. -/
def visitRoots (c : Calculation α) :
    List ItemRef → Walk α → Except Cancelled (List (CostRecord α) × Walk α)
  | [], w => .ok ([], w)
  | root :: rest, w => do
    let (cost, w) ← c.visitRoot root w
    let (costs, w) ← c.visitRoots rest w
    return (cost.toList ++ costs, w)

/-- Costs a whole product, with some formulas read before. -/
def run (c : Calculation α) (cache : Formula.Cache := .empty) : Except Cancelled (Rollup α) := do
  let roots := c.product.topLevel
  let (parts, w) ← c.visitRoots roots (.start c.product.countSteps cache)
  return {
    roots
    details := w.details
    bindings := w.bindings
    total := .aggregate parts
    stats := w.stats
    reports := w.reports }

end Calculation

end Costing
