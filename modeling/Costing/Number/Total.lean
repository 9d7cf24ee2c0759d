import Costing.Number.Dyadic

/-!
# Number — Total

The total order of numbers, in which the NaNs have places by their bits.  A `Float` has one NaN, so
the bits of a NaN stand beside the number wherever the total order is asked for.
-/

namespace Costing.Number

/-- The bits of a NaN: its sign and its fraction. -/
structure NaN where
  negative : Bool
  fraction : Nat
  fraction_pos : 0 < fraction
  fraction_lt : fraction < 1 <<< 52
deriving Repr, DecidableEq

/-- A number as the total order sees it. -/
inductive Total where
  | number (x : Float)
  | nan (n : NaN)

namespace Total

/-- A number, with the bits that it has if it is a NaN. -/
def ofFloat (n : NaN) (x : Float) : Total :=
  if x.isNaN then nan n else number x

/-- The place in the total order.  A NaN stands before or after all numbers by its sign, the farther
from them the larger its fraction. -/
def rank : Total → Int
  | number x => Number.rank x
  | nan n =>
    let magnitude : Nat := (2047 <<< 52) + n.fraction
    if n.negative then -(magnitude : Int) - 1 else (magnitude : Int)

end Total

end Costing.Number
