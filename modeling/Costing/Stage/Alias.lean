import Costing.Formula.Token
import Costing.Path

/-!
# Stage — Alias

The names under which formulas read the results of earlier stages: `stage`, the place of the stage, an
underscore and the name of a result.  `StageAlias.render` writes such a name, `StageAlias.index?` reads
the place back.
-/

namespace Costing.StageAlias

/-- The name of a result of the stage at a place. -/
def render (index : Nat) (key : String) : String :=
  "stage" ++ toString index ++ "_" ++ key

/-- The place that follows the word `stage`. -/
def indexFrom? (cs : List Char) : Option Nat :=
  let (digits, rest) := Number.spanDigits cs
  match rest with
  | '_' :: key =>
    if key.isEmpty || !key.all Formula.isNameChar then none
    else (Number.readNat? digits).filter (· < Segment.indexBound)
  | _ => none

/-- The place of the stage that a name reads a result of. -/
def index? (name : String) : Option Nat :=
  ("stage".toList.isPrefixOf? name.toList).bind indexFrom?

end Costing.StageAlias
