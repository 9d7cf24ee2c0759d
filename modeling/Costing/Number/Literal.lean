import Costing.Text.Blank

/-!
# Number — Literal

Reading decimal text.  `readDecimal?` takes a sign, digits with at most one point and an exponent;
`read?` also takes the names of infinity and NaN.
-/

namespace Costing.Number

/-- The number that digits write, most significant first. -/
def ofDigits (ds : List Char) : Nat :=
  ds.foldl (fun n c => n * 10 + (c.toNat - '0'.toNat)) 0

/-- The longest run of ASCII digits in front, and the rest. -/
def spanDigits (cs : List Char) : List Char × List Char :=
  (cs.takeWhile Char.isDigit, cs.dropWhile Char.isDigit)

/-- A sign in front, `true` for minus, and the rest. -/
def signed : List Char → Bool × List Char
  | '-' :: cs => (true, cs)
  | '+' :: cs => (false, cs)
  | cs => (false, cs)

/-- The exponent that `cs` writes: nothing, or `e`, a sign and digits up to the end. -/
def readExponent? : List Char → Option Int
  | [] => some 0
  | c :: cs =>
    if c == 'e' || c == 'E' then
      let (negative, digits) := signed cs
      if digits.isEmpty || !digits.all Char.isDigit then none
      else some (if negative then -(ofDigits digits : Int) else ofDigits digits)
    else none

/-- `digits · 10 ^ exponent` rounded to the nearest number.  Exponents far outside the range are
settled by the count of digits. -/
def nearest (digits : Nat) (exponent : Int) : Float :=
  let size := ((Nat.toDigits 10 digits).length : Int) + exponent
  if digits == 0 || size < -330 then 0
  else if size > 310 then 1.0 / 0.0
  else Float.ofScientific digits (exponent < 0) exponent.natAbs

/-- The magnitude that `cs` writes: digits around an optional point, then an optional exponent. -/
def readMagnitude? (cs : List Char) : Option Float :=
  let (whole, rest) := spanDigits cs
  let (fraction, rest) :=
    match rest with
    | '.' :: rest => spanDigits rest
    | rest => ([], rest)
  if whole.isEmpty && fraction.isEmpty then none
  else (readExponent? rest).map fun exponent =>
    nearest (ofDigits (whole ++ fraction)) (exponent - fraction.length)

/-- The number that decimal text writes. -/
def readDecimal? (cs : List Char) : Option Float :=
  let (negative, magnitude) := signed cs
  (readMagnitude? magnitude).map fun x => if negative then -x else x

/-- The number that a text writes, the names `inf`, `infinity` and `nan` in any case included. -/
def read? (s : String) : Option Float :=
  let (negative, magnitude) := signed s.toList
  let name := (String.ofList magnitude).toLower
  let named : Option Float :=
    if name == "inf" || name == "infinity" then some (1.0 / 0.0)
    else if name == "nan" then some (0.0 / 0.0)
    else none
  match named with
  | some x => some (if negative then -x else x)
  | none => readDecimal? s.toList

/-- The natural number that ASCII digits write, if there is a digit and nothing else. -/
def readNat? (cs : List Char) : Option Nat :=
  if cs.isEmpty || !cs.all Char.isDigit then none else some (ofDigits cs)

end Costing.Number
