import Costing.Formula.Fault
import Costing.Value.Coercion

/-!
# Formula — Arguments

The arguments of a function; one that is left out reads as null.
-/

namespace Costing.Formula

/-- Evaluated arguments. -/
abbrev Arguments := List Value

/-- An argument by its place, null when it is left out. -/
def Arguments.nth (args : Arguments) (i : Nat) : Value :=
  args[i]?.getD .null

/-- An argument that is there and not null. -/
def Arguments.given? (args : Arguments) (i : Nat) : Option Value :=
  match args[i]? with
  | none | some .null => none
  | some v => some v

/-- The value of a function, or why there is none. -/
abbrev Outcome := Except Fault Value

end Costing.Formula
