import Costing.Json.Basic
import Costing.Number.Literal

/-!
# Json — Reader

Reading the text of a document.  Text that is no document gives nothing; a part that is well formed
but has no value becomes `unreadable`, so that it can still be skipped.
-/

namespace Costing.Json

/-- Blanks between the parts of a document. -/
def isSpace (c : Char) : Bool :=
  c == ' ' || c == '\n' || c == '\t' || c == '\r'

/-- The characters without the blanks in front. -/
def skipSpace (cs : List Char) : List Char :=
  cs.dropWhile isSpace

/-- Arrays and objects nest less deep than this. -/
def nestingLimit : Nat := 128

/-- The value of a hexadecimal digit. -/
def hexValue? (c : Char) : Option Nat :=
  if c.isDigit then some (c.toNat - 48)
  else if 'a' ≤ c && c ≤ 'f' then some (c.toNat - 87)
  else if 'A' ≤ c && c ≤ 'F' then some (c.toNat - 55)
  else none

/-- The code unit that four hexadecimal digits write. -/
def codeUnit? (a b c d : Char) : Option Nat := do
  return (((← hexValue? a) * 16 + (← hexValue? b)) * 16 + (← hexValue? c)) * 16 + (← hexValue? d)

/-- The character after a backslash that needs no digits. -/
def simpleEscape? : Char → Option Char
  | '"' => some '"'
  | '\\' => some '\\'
  | '/' => some '/'
  | 'b' => some '\x08'
  | 'f' => some '\x0c'
  | 'n' => some '\n'
  | 'r' => some '\r'
  | 't' => some '\t'
  | _ => none

/-- The pieces of a text between quotes. -/
inductive Piece where
  | char (c : Char)
  | unit (n : Nat)

/-- The pieces up to the closing quote, and what follows it. -/
def readPieces? : List Char → Option (List Piece × List Char)
  | [] => none
  | '"' :: rest => some ([], rest)
  | '\\' :: 'u' :: a :: b :: c :: d :: rest => do
    let n ← codeUnit? a b c d
    let (pieces, rest) ← readPieces? rest
    return (.unit n :: pieces, rest)
  | '\\' :: c :: rest => do
    let c ← simpleEscape? c
    let (pieces, rest) ← readPieces? rest
    return (.char c :: pieces, rest)
  | c :: rest =>
    if c.toNat < 32 || c == '\\' then none
    else (readPieces? rest).map fun (pieces, rest) => (.char c :: pieces, rest)

/-- A unit that opens a pair. -/
def isHighUnit (n : Nat) : Bool := 0xD800 ≤ n && n < 0xDC00

/-- A unit that closes a pair. -/
def isLowUnit (n : Nat) : Bool := 0xDC00 ≤ n && n < 0xE000

/-- The characters of the pieces, if every unit stands for one, alone or in a pair. -/
def joinPieces? : List Piece → Option (List Char)
  | [] => some []
  | .char c :: rest => (joinPieces? rest).map (c :: ·)
  | .unit high :: .unit low :: rest =>
    if isHighUnit high then
      if isLowUnit low then
        (joinPieces? rest).map
          (Char.ofNat (0x10000 + (high - 0xD800) * 0x400 + (low - 0xDC00)) :: ·)
      else none
    else if isLowUnit high then none
    else (joinPieces? (.unit low :: rest)).map (Char.ofNat high :: ·)
  | .unit n :: rest =>
    if isHighUnit n || isLowUnit n then none
    else (joinPieces? rest).map (Char.ofNat n :: ·)

/-- Digits, at least one of them, and the rest. -/
def digits? (cs : List Char) : Option (List Char × List Char) :=
  let (ds, rest) := Number.spanDigits cs
  if ds.isEmpty then none else some (ds, rest)

/-- The digits of an integer part: a zero alone or digits that start with no zero. -/
def integerDigits? (cs : List Char) : Option (List Char × List Char) := do
  let (ds, rest) ← digits? cs
  if ds.length > 1 && ds.head? == some '0' then none else some (ds, rest)

/-- The digits after a point, if there is one. -/
def fractionDigits? : List Char → Option (List Char × List Char)
  | '.' :: cs => digits? cs
  | cs => some ([], cs)

/-- The exponent after `e`, if there is one. -/
def exponent? : List Char → Option (Option Int × List Char)
  | c :: cs =>
    if c == 'e' || c == 'E' then do
      let (negative, cs) := Number.signed cs
      let (ds, rest) ← digits? cs
      let n : Int := Number.ofDigits ds
      return (some (if negative then -n else n), rest)
    else some (none, c :: cs)
  | [] => some (none, [])

/-- Takes digits after `n` as long as the number fits in 64 bits.  Gives the number, and how many digits
are taken. -/
def takeDigits (n : Nat) : List Char → Nat × Nat
  | [] => (n, 0)
  | d :: ds =>
    let more := n * 10 + Number.ofDigits [d]
    if more < naturalBound then
      let (n, taken) := takeDigits more ds
      (n, taken + 1)
    else (n, 0)

/-- The largest power of ten that numbers are scaled by at once. -/
def largestPower : Nat := 308

/-- A number, not below zero, times a power of ten.  It is multiplied or divided by the power, each
rounded, so the result may miss the nearest number by its last digit. -/
def scaled (x : Float) (exponent : Int) : Float :=
  let power (n : Nat) := Number.nearest 1 n
  let places := exponent.natAbs
  if exponent ≥ 0 then
    if places ≤ largestPower then x * power places else if x == 0 then 0 else 1.0 / 0.0
  else if places ≤ largestPower then x / power places
  else if places ≤ 2 * largestPower then x / power largestPower / power (places - largestPower)
  else 0

/-- The number that digits around a point and an exponent write.  The digits that fit in 64 bits count,
and of the others before the point how many there are. -/
def magnitude (whole fraction : List Char) (exponent : Int) : Float :=
  let (n, taken) := takeDigits 0 whole
  let (n, places) := takeDigits n fraction
  scaled (Number.nearest n 0) (exponent + (whole.length - taken : Nat) - (places : Int))

/-- A number in front of `cs`. -/
def readNumber? (cs : List Char) : Option (Json × List Char) := do
  let (negative, unsigned) :=
    match cs with
    | '-' :: cs => (true, cs)
    | cs => (false, cs)
  let (whole, rest) ← integerDigits? unsigned
  let (fraction, rest) ← fractionDigits? rest
  let (exponent, rest) ← exponent? rest
  let n := Number.ofDigits whole
  if !negative && fraction.isEmpty && exponent.isNone && n < naturalBound then
    return (natural n, rest)
  else
    let x := magnitude whole fraction (exponent.getD 0)
    return (if x.isFinite then number (if negative then -x else x) else unreadable, rest)

/-- A text in front of `cs`, whose opening quote is taken; a text without a value is `none`. -/
def readString? (cs : List Char) : Option (Option String × List Char) := do
  let (pieces, rest) ← readPieces? cs
  return ((joinPieces? pieces).map String.ofList, rest)

/-- What stands after a word in front of `cs`. -/
def afterWord? (word : String) (cs : List Char) : Option (List Char) :=
  word.toList.isPrefixOf? cs

/-- The object of some members; a member without a readable name leaves it without a value. -/
def ofMembers (members : List (Option String × Json)) : Json :=
  match members.mapM (fun (name, value) => name.map (·, value)) with
  | some members => object members
  | none => unreadable

mutual

/-- A document in front of `cs`, at a depth of nesting.  Every call takes one unit of fuel. -/
def readAt? (fuel depth : Nat) (cs : List Char) : Option (Json × List Char) :=
  match fuel with
  | 0 => none
  | fuel + 1 =>
    match skipSpace cs with
    | [] => none
    | '"' :: cs => (readString? cs).map fun (s, rest) => ((s.map string).getD unreadable, rest)
    | '[' :: cs => do
      let (items, rest) ←
        match skipSpace cs with
        | ']' :: rest => some ([], rest)
        | cs => readItems? fuel (depth + 1) cs
      return (if depth + 1 < nestingLimit then array items else unreadable, rest)
    | '\x7b' :: cs => do
      let (members, rest) ←
        match skipSpace cs with
        | '\x7d' :: rest => some ([], rest)
        | cs => readMembers? fuel (depth + 1) cs
      return (if depth + 1 < nestingLimit then ofMembers members else unreadable, rest)
    | 't' :: cs => (afterWord? "rue" cs).map (bool true, ·)
    | 'f' :: cs => (afterWord? "alse" cs).map (bool false, ·)
    | 'n' :: cs => (afterWord? "ull" cs).map (null, ·)
    | cs => readNumber? cs

/-- Items, at least one, up to the closing bracket. -/
def readItems? (fuel depth : Nat) (cs : List Char) : Option (List Json × List Char) :=
  match fuel with
  | 0 => none
  | fuel + 1 => do
    let (item, rest) ← readAt? fuel depth cs
    match skipSpace rest with
    | ']' :: rest => return ([item], rest)
    | ',' :: rest =>
      let (items, rest) ← readItems? fuel depth rest
      return (item :: items, rest)
    | _ => none

/-- Members, at least one, up to the closing brace. -/
def readMembers? (fuel depth : Nat) (cs : List Char) :
    Option (List (Option String × Json) × List Char) :=
  match fuel with
  | 0 => none
  | fuel + 1 =>
    match skipSpace cs with
    | '"' :: cs => do
      let (name, rest) ← readString? cs
      match skipSpace rest with
      | ':' :: rest =>
        let (value, rest) ← readAt? fuel depth rest
        match skipSpace rest with
        | '\x7d' :: rest => return ([(name, value)], rest)
        | ',' :: rest =>
          let (members, rest) ← readMembers? fuel depth rest
          return ((name, value) :: members, rest)
        | _ => none
      | _ => none
    | _ => none

end

/-- The document that a text writes. -/
def readText? (text : String) : Option Json :=
  let cs := text.toList
  match readAt? (2 * cs.length + 2) 0 cs with
  | some (j, rest) => if (skipSpace rest).isEmpty then some j else none
  | none => none

end Costing.Json
