/-!
# Number — Dyadic

A finite number is `±significand · 2 ^ exponent`.  On that form the operations that core leaves out
are exact: rounding down, the remainder that keeps the sign of the dividend, and a total order.
-/

namespace Costing.Number

/-- The magnitude `significand · 2 ^ exponent`. -/
structure Dyadic where
  significand : Nat
  exponent : Int
  /-- The gap to the magnitude below is half the gap to the one above. -/
  narrowBelow : Bool
deriving Repr, DecidableEq

/-- Below zero, or the negative zero. -/
def isNegative (x : Float) : Bool :=
  x.toBits >>> 63 == 1

/-- The magnitude of a finite number. -/
def Dyadic.ofFloat (x : Float) : Dyadic :=
  let biased := ((x.toBits >>> 52) &&& 0x7FF).toNat
  let fraction := (x.toBits &&& 0xFFFFFFFFFFFFF).toNat
  if biased == 0 then ⟨fraction, -1074, false⟩
  else ⟨1 <<< 52 + fraction, (biased : Int) - 1075, fraction == 0 && biased > 1⟩

/-- The largest integer that is not above the magnitude. -/
def Dyadic.whole (d : Dyadic) : Nat :=
  (d.significand <<< d.exponent.toNat) >>> (-d.exponent).toNat

/-- Whether the magnitude is an integer. -/
def Dyadic.isWhole (d : Dyadic) : Bool :=
  d.significand % (1 <<< (-d.exponent).toNat) == 0

/-- A magnitude below `2 ^ 53` units of `2 ^ exponent`, with a sign. -/
def ofDyadic (negative : Bool) (units : Nat) (exponent : Int) : Float :=
  let magnitude := (Float.ofNat units).scaleB exponent
  if negative then -magnitude else magnitude

/-- Whether `x` is a finite integer. -/
def isWhole (x : Float) : Bool :=
  x.isFinite && (Dyadic.ofFloat x).isWhole

/-- The integer part of a finite number, toward zero. -/
def truncate (x : Float) : Int :=
  let whole : Int := (Dyadic.ofFloat x).whole
  if isNegative x then -whole else whole

/-- Rounding down; integers, infinities and NaN stay as they are. -/
def floor (x : Float) : Float :=
  let d := Dyadic.ofFloat x
  if !x.isFinite || d.isWhole then x
  else if isNegative x then -Float.ofNat (d.whole + 1)
  else Float.ofNat d.whole

/-- Rounding up. -/
def ceil (x : Float) : Float :=
  -floor (-x)

/-- The exact remainder of `x` by `y`, with the sign of `x`. -/
def remainder (x y : Float) : Float :=
  if x.isNaN || y.isNaN || x.isInf || y == 0 then 0.0 / 0.0
  else if y.isInf then x
  else
    let a := Dyadic.ofFloat x
    let b := Dyadic.ofFloat y
    let exponent := min a.exponent b.exponent
    let units := (a.significand <<< (a.exponent - exponent).toNat) %
      (b.significand <<< (b.exponent - exponent).toNat)
    ofDyadic (isNegative x) units exponent

/-- The larger number, `x` when the two are equal; a NaN is passed over. -/
def larger (x y : Float) : Float :=
  if x.isNaN then y else if x < y then y else x

/-- The smaller number, `x` when the two are equal; a NaN is passed over. -/
def smaller (x y : Float) : Float :=
  if x.isNaN then y else if y < x then y else x

/-- The place of a number in the total order from `-∞` to `∞`, in which `-0` comes before `0`. -/
def rank (x : Float) : Int :=
  if isNegative x then -((x.toBits &&& 0x7FFFFFFFFFFFFFFF).toNat : Int) - 1
  else (x.toBits.toNat : Int)

end Costing.Number
