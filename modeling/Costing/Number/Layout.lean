import Costing.Number.Shortest

/-!
# Number — Layout

How the digits of a number are laid out: positional or scientific, with or without a point after an
integer.
-/

namespace Costing.Number

/-- The decisions of a number format. -/
structure Layout where
  /-- Which of two equally near decimals is written. -/
  tie : Tie
  /-- The least and one past the greatest exponent of the leading digit that is written positionally;
  all are when there is no range. -/
  positional : Option (Int × Int)
  /-- Integers end in `.0`. -/
  pointZero : Bool

/-- `n` zeros. -/
def zeros (n : Nat) : List Char :=
  List.replicate n '0'

/-- Positional notation of `digits · 10 ^ exponent`. -/
def positionalChars (pointZero : Bool) (digits : List Char) (exponent : Int) : List Char :=
  let fraction := if pointZero then ['.', '0'] else []
  if exponent ≥ 0 then digits ++ zeros exponent.toNat ++ fraction
  else
    let places := (-exponent).toNat
    if places < digits.length then
      digits.take (digits.length - places) ++ '.' :: digits.drop (digits.length - places)
    else '0' :: '.' :: zeros (places - digits.length) ++ digits

/-- Scientific notation with an explicit sign of the exponent. -/
def scientificChars (digits : List Char) (leading : Int) : List Char :=
  let mantissa :=
    match digits with
    | first :: second :: rest => first :: '.' :: second :: rest
    | short => short
  mantissa ++ 'e' :: (if leading < 0 then '-' else '+') :: Nat.toDigits 10 leading.natAbs

/-- The characters of a finite magnitude. -/
def Layout.magnitude (layout : Layout) (x : Float) : List Char :=
  let d := (Dyadic.ofFloat x).shortest layout.tie
  let digits := Nat.toDigits 10 d.digits
  let leading := d.exponent + (digits.length : Int) - 1
  match layout.positional with
  | none => positionalChars layout.pointZero digits d.exponent
  | some (least, bound) =>
    if d.digits == 0 || (least ≤ leading && leading < bound) then
      positionalChars layout.pointZero digits d.exponent
    else scientificChars digits leading

/-- A finite number with its sign, that of negative zero included. -/
def Layout.render (layout : Layout) (x : Float) : String :=
  let magnitude := layout.magnitude x
  String.ofList (if isNegative x then '-' :: magnitude else magnitude)

/-- Positional notation of any size, integers without a point. -/
def plain : Layout where
  tie := .up
  positional := none
  pointZero := false

end Costing.Number
