import Costing.Formula.Builtin.Arguments
import Costing.Number.Dyadic

/-!
# Formula — Numeric functions

Rounding and extremes.  A value that is no number spoils the result.
-/

namespace Costing.Formula.Builtin

/-- The numbers of places that rounding keeps lie between this many before and after the point. -/
def placesLimit : Int := 15

/-- `x` rounded to the nearest multiple of `10 ^ -places`, a half going up. -/
def roundTo (places : Int) (x : Float) : Float :=
  let power := Float.ofNat (Nat.pow 10 places.natAbs)
  if places ≥ 0 then Number.floor (x * power + 0.5) / power
  else Number.floor (x / power + 0.5) * power

/-- The number of places that an argument asks for, toward zero. -/
def places (v : Value) : Except Fault Int :=
  let digits := v.toNumber
  if !digits.isFinite then .error (.argument (.digits v.kindName))
  else if digits ≥ 15 then .ok placesLimit
  else if digits ≤ -15 then .ok (-placesLimit)
  else .ok (Number.truncate digits)

/-- `round(x, digits?)`. -/
def applyRound (args : Arguments) : Outcome := do
  let digits ←
    match args.given? 1 with
    | none => .ok 0
    | some v => places v
  return .number (roundTo digits (args.nth 0).toNumber)

/-- What `min` and `max` range over: the items of an array that stands alone, or the arguments. -/
def extremeItems : Arguments → List Value
  | [.array items] => items
  | args => args

/-- The pick of some numbers one after the other; NaN as soon as there is one. -/
def pickFrom (pick : Float → Float → Float) (best : Float) : List Float → Float
  | [] => best
  | x :: rest =>
    if x.isNaN || best.isNaN then 0.0 / 0.0 else pickFrom pick (pick best x) rest

/-- `min` and `max`. -/
def applyExtreme (function : String) (pick : Float → Float → Float) (args : Arguments) : Outcome :=
  match (extremeItems args).map Value.toNumber with
  | [] => .error (.argument (.noValues function))
  | first :: rest => .ok (.number (pickFrom pick first rest))

end Costing.Formula.Builtin
