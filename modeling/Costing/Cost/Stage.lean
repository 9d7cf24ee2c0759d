import Costing.Cost.Record
import Costing.Formula.Cache
import Costing.Stage.Context

/-!
# Cost — Stage

The cost of one stage.  The variables of its calculator are computed in order in the context of its
inputs; a formula that fails leaves its variable null.  Results are mapped from the final context; if
there is none, flat prices may stand in.  Formulas are read through a cache, which costs do not depend
on (`Stage.calculateWith_fst`).
-/

namespace Costing

open Costing.Formula (Cache Context)

/-- What a stage gave; `index` is its place among the stages of its item. -/
structure StageResult (α : Type) where
  stageId : String
  title : Option String
  index : Nat
  cost : CostRecord α

/-- The record by which later stages read a stage. -/
def StageResult.toValue (r : StageResult Float) : Value :=
  Value.ofFields [
    ("id", .string r.stageId),
    ("index", .number (Float.ofNat r.index)),
    ("operationCost", .ofNumber? r.cost.operationCost),
    ("materialCost", .ofNumber? r.cost.materialCost),
    ("totalCost", .ofNumber? r.cost.totalCost),
    ("currency", .ofString? r.cost.currency),
    ("outputs", .ofDict r.cost.outputs),
    ("variables", .ofDict r.cost.vars)]

/-- How an offer is costed. -/
structure CostOptions where
  /-- The quantity that is asked for. -/
  quantity : Float := 1
  /-- Flat prices stand in where logic maps nothing. -/
  allowFallback : Bool := true

/-- Variables as far as they are computed, and how many formulas failed. -/
structure Variables where
  context : Context
  values : Dict Value := .empty
  failures : Nat := 0

namespace Variables

variable [Platform]

/-- Adds the value of one more variable, and whether its formula failed. -/
def add (vars : Variables) (name : String) (value : Value × Bool) : Variables :=
  { context := vars.context.put name value.1
    values := vars.values.put name value.1
    failures := vars.failures + value.2.toNat }

/-- The value that a formula leaves its variable, and whether it failed. -/
def ofOutcome : Except Formula.Fault (Option Value) → Value × Bool
  | .ok value => (value.getD .null, false)
  | .error _ => (.null, true)

/-- The value of what defines a variable, and whether a formula failed. -/
def valueOf (ctx : Context) (cache : Cache) : VariableBody → (Value × Bool) × Cache
  | .formula text =>
    let parsed := cache.parse text
    (ofOutcome (parsed.1.bind fun n => Formula.tryEvaluate ctx n.expr), parsed.2)
  | .value v => ((v, false), cache)
  | .empty => ((.null, false), cache)

/-- Computes one more variable. -/
def compute (s : Variables × Cache) (v : Variable) : Variables × Cache :=
  let (value, cache) := valueOf s.1.context s.2 v.body
  (s.1.add (Text.trim v.name) value, cache)

/-- The variables of some logic. -/
def ofLogic (ctx : Context) (logic : Logic) (cache : Cache) : Variables × Cache :=
  logic.vars.foldl compute (⟨ctx, .empty, 0⟩, cache)

/-- Through a cache, a formula gives what its text gives. -/
theorem valueOf_formula (ctx : Context) (cache : Cache) (text : String) :
    (valueOf ctx cache (.formula text)).1 = ofOutcome (Formula.evaluateText ctx text) := by
  show ofOutcome ((cache.parse text).1.bind fun n => Formula.tryEvaluate ctx n.expr) = _
  unfold Formula.evaluateText
  rw [← cache.parse_fst text]
  cases (cache.parse text).1 <;> rfl

theorem valueOf_fst (ctx : Context) (cache cache' : Cache) (body : VariableBody) :
    (valueOf ctx cache body).1 = (valueOf ctx cache' body).1 := by
  cases body with
  | formula text => rw [valueOf_formula, valueOf_formula]
  | value v => rfl
  | empty => rfl

theorem compute_fst {s s' : Variables × Cache} (h : s.1 = s'.1) (v : Variable) :
    (compute s v).1 = (compute s' v).1 := by
  unfold compute
  rw [h]
  exact congrArg (s'.1.add _) (valueOf_fst _ s.2 s'.2 v.body)

theorem foldl_compute_fst (l : List Variable) {s s' : Variables × Cache} (h : s.1 = s'.1) :
    (l.foldl compute s).1 = (l.foldl compute s').1 := by
  induction l generalizing s s' with
  | nil => exact h
  | cons v rest ih => exact ih (compute_fst h v)

end Variables

/-- Adds the result that a mapping takes from a context, if its key is one and its value is there. -/
def mapOutput (ctx : Context) (outputs : Dict Value) (m : OutputMapping) : Dict Value :=
  match ResultKey.parse m.key, (ctx.get? (Text.trim m.sourceRef)).filter Value.isPresent with
  | .ok key, some v => outputs.put key.name v
  | _, _ => outputs

/-- The results that mappings take from a context. -/
def mapOutputs (ctx : Context) (mappings : List OutputMapping) : Dict Value :=
  mappings.foldl (mapOutput ctx) .empty

/-- The number of a required result. -/
def requiredNumber? (outputs : Dict Value) (r : RequiredResult) : Option Float :=
  ((outputs.get? r.name).bind Value.numeric?).filter Float.isFinite

namespace Stage

variable [Platform]

/-- The cost that logic gives: the base price of the operation and the purchasing price of the
material. -/
def logicCost (outputs : Dict Value) : CostRecord Float :=
  { operationCost := requiredNumber? outputs .basePrice
    materialCost := requiredNumber? outputs .purchasingPrice
    source := .logicApplied
    logicApplied := true }

/-- The cost at flat prices, if there are any and they may be taken. -/
def flatCost (s : Stage) (options : CostOptions) : CostRecord Float :=
  if options.allowFallback && (s.operationPrice.isSome || s.materialPrice.isSome) then
    let quantity := s.quantity.getD options.quantity
    { operationCost := s.operationPrice.map (· * quantity)
      materialCost := s.materialPrice.map (· * quantity)
      source := .fallbackApplied }
  else .none

/-- The cost of a stage whose logic mapped some results. -/
def baseCost (s : Stage) (options : CostOptions) (outputs : Dict Value) : CostRecord Float :=
  if outputs.size = 0 then s.flatCost options else logicCost outputs

/-- The variables of a stage's calculator, computed in the context of its inputs. -/
def computeVariables (s : Stage) (w : Surroundings) (cache : Cache) : Variables × Cache :=
  let ctx := w.context s.inputs
  match s.calculatorId.bind w.catalog.calculator? with
  | some calculator => Variables.ofLogic ctx calculator.logic cache
  | none => (⟨ctx, .empty, 0⟩, cache)

/-- The result of a stage whose variables are computed. -/
def result (s : Stage) (options : CostOptions) (index : Nat) (vars : Variables) :
    StageResult Float :=
  let outputs := mapOutputs vars.context s.outputs
  let base := s.baseCost options outputs
  { stageId := s.id
    title := s.title
    index
    cost := { base with
      totalCost := addCosts base.operationCost base.materialCost
      currency := s.currency
      vars := vars.values
      outputs } }

/-- The result of a stage after some others of its item, and how many formulas failed, with some
formulas read before. -/
def calculateWith (w : Surroundings) (options : CostOptions) (s : Stage)
    (done : List (StageResult Float)) (cache : Cache) : (StageResult Float × Nat) × Cache :=
  let vars := s.computeVariables { w with prior := done.map StageResult.toValue } cache
  ((s.result options done.length vars.1, vars.1.failures), vars.2)

/-- The result of a stage on its own, with no formula read before. -/
def calculate (w : Surroundings) (options : CostOptions) (s : Stage)
    (done : List (StageResult Float)) : StageResult Float × Nat :=
  (s.calculateWith w options done .empty).1

theorem computeVariables_fst (s : Stage) (w : Surroundings) (cache cache' : Cache) :
    (s.computeVariables w cache).1 = (s.computeVariables w cache').1 := by
  unfold computeVariables
  split
  · exact Variables.foldl_compute_fst _ rfl
  · rfl

/-- What a stage costs does not depend on the formulas read before. -/
theorem calculateWith_fst (w : Surroundings) (options : CostOptions) (s : Stage)
    (done : List (StageResult Float)) (cache : Cache) :
    (s.calculateWith w options done cache).1 = s.calculate w options done := by
  have h := s.computeVariables_fst { w with prior := done.map StageResult.toValue } cache .empty
  exact congrArg (fun vars => (s.result options done.length vars, vars.failures)) h

end Stage

end Costing
