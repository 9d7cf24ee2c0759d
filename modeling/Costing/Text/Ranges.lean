/-!
# Text — Ranges

Ascending ranges of code points, and the text form in which tables of them are kept: hexadecimal
numbers, ranges `first-last` and, for every second code point, `first-last/2`, separated by blanks.
-/

namespace Costing.Text

/-- Code points from `first` to `last`, both included. -/
structure Range where
  first : Nat
  last : Nat
deriving Repr, DecidableEq

/-- The number that hexadecimal digits in lower case write. -/
def hexNumber (cs : List Char) : Nat :=
  cs.foldl (fun n c => n * 16 + (if c.isDigit then c.toNat - 48 else c.toNat - 87)) 0

/-- The pieces of a list between the occurrences of a separator. -/
def pieces (separator : Char) (cs : List Char) : List (List Char) :=
  cs.foldr
    (fun c found =>
      match found with
      | [] => if c = separator then [[], []] else [[c]]
      | piece :: rest => if c = separator then [] :: piece :: rest else (c :: piece) :: rest)
    [[]]

/-- The entries of a table, whose lines hold entries between blanks. -/
def tableEntries (lines : List String) : List (List Char) :=
  lines.flatMap fun line => pieces ' ' line.toList

/-- The range that an entry `first-last` or of a single number writes. -/
def Range.ofEntry (entry : List Char) : Range :=
  match pieces '-' entry with
  | [first, last] => ⟨hexNumber first, hexNumber last⟩
  | _ => ⟨hexNumber entry, hexNumber entry⟩

/-- Every second code point of a range, from its first on. -/
def Range.alternate (range : Range) : List Range :=
  (List.range ((range.last - range.first) / 2 + 1)).map fun i =>
    ⟨range.first + 2 * i, range.first + 2 * i⟩

/-- The ranges that an entry writes. -/
def entryRanges (entry : List Char) : List Range :=
  match pieces '/' entry with
  | [range, _] => (Range.ofEntry range).alternate
  | _ => [Range.ofEntry entry]

/-- The ranges that a table writes. -/
def readRanges (lines : List String) : List Range :=
  (tableEntries lines).flatMap entryRanges

/-- The index of the last of ascending starts that is not above `n`, among those from `low` up to but
not including `high`; `low` if there is none.  Fuel bounds the halvings. -/
def lastNotAbove (start : Nat → Nat) (n : Nat) : Nat → Nat → Nat → Nat
  | 0, low, _ => low
  | fuel + 1, low, high =>
    if high ≤ low + 1 then low
    else
      let middle := (low + high) / 2
      if start middle ≤ n then lastNotAbove start n fuel middle high
      else lastNotAbove start n fuel low middle

/-- Whether a code point lies in one of some ascending ranges. -/
def inRanges (ranges : Array Range) (n : Nat) : Bool :=
  let i := lastNotAbove (fun i => (ranges[i]?.map Range.first).getD 0) n 32 0 ranges.size
  match ranges[i]? with
  | some range => range.first ≤ n && n ≤ range.last
  | none => false

end Costing.Text
