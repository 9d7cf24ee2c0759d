import Costing.Formula.Eval
import Costing.Stage.Alias
import Costing.Stage.Source

/-!
# Stage — Context

The names that the formulas of a stage read: its wired inputs, then the results of the stages before
it under their aliases.  An input hides an alias of the same name, and what a wiring does not find is
left out.
-/

namespace Costing.Surroundings

open Costing.Formula (Context)

/-- The costs of a stage that have an alias besides its results. -/
def costKeys : List String := ["operationCost", "materialCost", "totalCost"]

/-- Adds what a wiring leads to. -/
def addInput [Json.Codec] (w : Surroundings) (ctx : Context) (wiring : Wiring) : Context :=
  match w.resolve wiring.sourcePath with
  | .ok (some v) => ctx.put (Text.trim wiring.paramName) v
  | _ => ctx

/-- What earlier stages may be read by: the results in a stage's record, then its costs. -/
def priorFields (record : Value) : List (String × Value) :=
  let outputs :=
    match record.child? (.key "outputs") with
    | some (.record fields) => fields
    | _ => []
  outputs ++ costKeys.filterMap fun key => (record.child? (.key key)).map (key, ·)

/-- Adds a result of an earlier stage unless it is null or its name is taken. -/
def addAlias (index : Nat) (ctx : Context) (field : String × Value) : Context :=
  let name := StageAlias.render index field.1
  if field.2.isNull || ctx.contains name then ctx else ctx.put name field.2

/-- Adds the results of an earlier stage. -/
def addPrior (ctx : Context) (prior : Value × Nat) : Context :=
  (priorFields prior.1).foldl (addAlias prior.2) ctx

/-- The context of a stage with some wirings. -/
def context [Json.Codec] (w : Surroundings) (inputs : List Wiring) : Context :=
  w.prior.zipIdx.foldl addPrior (inputs.foldl w.addInput .empty)

end Costing.Surroundings
