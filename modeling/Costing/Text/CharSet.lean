import Costing.Text.Ranges

/-!
# Text — CharSet

Sets of characters as ascending ranges that do not touch, with the set operations.  No character has
a code point from D800 to DFFF, so D7FF and E000 are neighbours.
-/

namespace Costing.Text

/-- A set of characters. -/
structure CharSet where
  ranges : List Range
deriving Repr, DecidableEq

namespace CharSet

/-- The largest code point. -/
def maxCodePoint : Nat := 0x10FFFF

/-- The code point of the next character. -/
def above (n : Nat) : Nat :=
  if n = 0xD7FF then 0xE000 else n + 1

/-- The code point of the character before. -/
def below (n : Nat) : Nat :=
  if n = 0xE000 then 0xD7FF else n - 1

/-- No characters. -/
def empty : CharSet := ⟨[]⟩

/-- All characters. -/
def all : CharSet := ⟨[⟨0, maxCodePoint⟩]⟩

/-- Joins ranges that overlap or touch; they ascend by their first code point. -/
def join (current : Range) : List Range → List Range
  | [] => [current]
  | next :: rest =>
    if next.first ≤ current.last + 1 then join ⟨current.first, max current.last next.last⟩ rest
    else current :: join next rest

/-- The set of the characters in any of some ranges. -/
def ofRanges (ranges : List Range) : CharSet :=
  match ranges.mergeSort fun a b => a.first ≤ b.first with
  | [] => ⟨[]⟩
  | first :: rest => ⟨join first rest⟩

/-- The set that a table writes. -/
def ofTable (lines : List String) : CharSet :=
  ofRanges (readRanges lines)

/-- The set of one character. -/
def single (c : Char) : CharSet := ⟨[⟨c.toNat, c.toNat⟩]⟩

/-- The set of the characters from one to another. -/
def between (a b : Char) : CharSet := ⟨[⟨a.toNat, b.toNat⟩]⟩

/-- Characters in either set. -/
def union (a b : CharSet) : CharSet :=
  ofRanges (a.ranges ++ b.ranges)

/-- Characters in any of some sets. -/
def unions (sets : List CharSet) : CharSet :=
  ofRanges (sets.flatMap ranges)

/-- What lies between ranges after one that ends at `last`.  Ranges that only surrogates part have a
gap of the two characters beside those. -/
def gapsAfter (last : Nat) : List Range → List Range
  | [] => if last < maxCodePoint then [⟨above last, maxCodePoint⟩] else []
  | range :: rest =>
    let first := above last
    let stop := below range.first
    (if first ≤ stop then ⟨first, stop⟩ else ⟨stop, first⟩) :: gapsAfter range.last rest

/-- Characters that are not in the set. -/
def complement (a : CharSet) : CharSet :=
  match a.ranges with
  | [] => all
  | range :: rest =>
    let after := gapsAfter range.last rest
    ⟨if range.first = 0 then after else ⟨0, below range.first⟩ :: after⟩

/-- The common parts of two ascending lists of ranges. -/
def interRanges : List Range → List Range → List Range
  | a :: as, b :: bs =>
    let rest := if a.last < b.last then interRanges as (b :: bs) else interRanges (a :: as) bs
    let first := max a.first b.first
    let last := min a.last b.last
    if first ≤ last then ⟨first, last⟩ :: rest else rest
  | [], _ => []
  | _, [] => []
termination_by as bs => as.length + bs.length

/-- Characters in both sets. -/
def inter (a b : CharSet) : CharSet :=
  ⟨interRanges a.ranges b.ranges⟩

/-- What is left of ascending ranges without those of a second list. -/
def diffRanges : List Range → List Range → List Range
  | a :: as, b :: bs =>
    if b.last < a.first then diffRanges (a :: as) bs
    else if a.last < b.first then a :: diffRanges as (b :: bs)
    else
      let rest :=
        if b.last < a.last then diffRanges (⟨above b.last, a.last⟩ :: as) bs
        else diffRanges as (b :: bs)
      if a.first < b.first then ⟨a.first, below b.first⟩ :: rest else rest
  | [], _ => []
  | as, [] => as
termination_by as bs => as.length + bs.length

/-- Characters in the first set alone. -/
def diff (a b : CharSet) : CharSet :=
  ⟨diffRanges a.ranges b.ranges⟩

/-- Characters in exactly one of the sets. -/
def symmDiff (a b : CharSet) : CharSet :=
  (a.union b).diff (a.inter b)

/-- Whether all characters are ASCII. -/
def isAscii (a : CharSet) : Bool :=
  a.ranges.all (·.last < 128)

/-- The one character of a set that has no other. -/
def single? (a : CharSet) : Option Char :=
  match a.ranges with
  | [range] => if range.first = range.last then some (Char.ofNat range.first) else none
  | _ => none

/-- A set as an array, for fast membership. -/
def toArray (a : CharSet) : Array Range :=
  a.ranges.toArray

end CharSet

end Costing.Text
