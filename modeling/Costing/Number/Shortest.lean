import Costing.Number.Dyadic

/-!
# Number — Shortest

The decimal with the fewest digits that reads back as a given number.  A decimal reads back exactly
if it lies among the reals that round to the number; the search tries grids of one to seventeen
digits and takes the first that has such a point, the nearer of two.
-/

namespace Costing.Number

/-- The magnitude `digits · 10 ^ exponent`. -/
structure Decimal where
  digits : Nat
  exponent : Int
deriving Repr, DecidableEq

/-- Which of two equally near decimals is taken. -/
inductive Tie where
  | even
  | up
deriving Repr, DecidableEq

/-- Compares `a · 10 ^ i` with `n · 2 ^ j`. -/
def compareScaled (a : Nat) (i : Int) (n : Nat) (j : Int) : Ordering :=
  compare ((a * Nat.pow 10 i.toNat) <<< (-j).toNat) ((n * Nat.pow 10 (-i).toNat) <<< j.toNat)

/-- Whether the decimal lies among the reals that round to the magnitude: from half the gap below to
half the gap above, ends included when the significand is even. -/
def Dyadic.readsBack (x : Dyadic) (d : Decimal) : Bool :=
  let low := if x.narrowBelow then 4 * x.significand - 1 else 4 * x.significand - 2
  let high := 4 * x.significand + 2
  let closed := x.significand % 2 == 0
  let atLow := compareScaled d.digits d.exponent low (x.exponent - 2)
  let atHigh := compareScaled d.digits d.exponent high (x.exponent - 2)
  (atLow == .gt || (closed && atLow == .eq)) && (atHigh == .lt || (closed && atHigh == .eq))

/-- The least `k` with `x < 10 ^ k`, from the binary logarithm and a few exact comparisons. -/
def Dyadic.scale (x : Dyadic) : Int :=
  let guess := ((x.significand.log2 : Int) + x.exponent) * 30103 / 100000 - 1
  let below (k : Int) : Bool := compareScaled 1 k x.significand x.exponent == .gt
  if below guess then guess
  else if below (guess + 1) then guess + 1
  else if below (guess + 2) then guess + 2
  else guess + 3

/-- The point of the grid `10 ^ exponent` at or below the magnitude. -/
def Dyadic.gridFloor (x : Dyadic) (exponent : Int) : Nat :=
  ((x.significand * Nat.pow 10 (-exponent).toNat) <<< x.exponent.toNat) /
    (Nat.pow 10 exponent.toNat <<< (-x.exponent).toNat)

/-- The nearer of the two grid points around the magnitude that reads back, if one does. -/
def Dyadic.onGrid? (x : Dyadic) (tie : Tie) (exponent : Int) : Option Decimal :=
  let below := x.gridFloor exponent
  let low : Decimal := ⟨below, exponent⟩
  let high : Decimal := ⟨below + 1, exponent⟩
  match x.readsBack low, x.readsBack high with
  | false, false => none
  | true, false => some low
  | false, true => some high
  | true, true =>
    match compareScaled (2 * below + 1) exponent (2 * x.significand) x.exponent with
    | .gt => some low
    | .lt => some high
    | .eq =>
      match tie with
      | .up => some high
      | .even => some (if below % 2 == 0 then low else high)

/-- Drops trailing zeros of the digits, at most `fuel` of them. -/
def Decimal.strip (fuel : Nat) (d : Decimal) : Decimal :=
  match fuel with
  | 0 => d
  | fuel + 1 =>
    if d.digits != 0 && d.digits % 10 == 0 then
      Decimal.strip fuel ⟨d.digits / 10, d.exponent + 1⟩
    else d

/-- The exact value, which has finitely many decimals. -/
def Dyadic.exact (x : Dyadic) : Decimal :=
  if x.exponent ≥ 0 then ⟨x.significand <<< x.exponent.toNat, 0⟩
  else ⟨x.significand * Nat.pow 5 (-x.exponent).toNat, x.exponent⟩

/-- The decimal with the fewest digits that reads back as the magnitude. -/
def Dyadic.shortest (x : Dyadic) (tie : Tie) : Decimal :=
  if x.significand == 0 then ⟨0, 0⟩
  else
    let scale := x.scale
    let found := (List.range 17).findSome? fun (n : Nat) => x.onGrid? tie (scale - 1 - (n : Int))
    (found.getD x.exact).strip 400

end Costing.Number
