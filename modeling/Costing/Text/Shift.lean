import Costing.Text.Ranges

/-!
# Text — Shift

Maps between characters by offsets, and the text form in which tables of them are kept: entries
`first-last/stride±offset`, whose numbers are hexadecimal.
-/

namespace Costing.Text

/-- Code points from `first` to `last` in steps of `stride`, each mapped `offset` up. -/
structure Shift where
  first : Nat
  last : Nat
  stride : Nat
  offset : Int
deriving Repr, DecidableEq

/-- The shift that an entry writes. -/
def Shift.ofEntry (entry : List Char) : Shift :=
  let range := Range.ofEntry (entry.takeWhile (· != '/'))
  match (entry.dropWhile (· != '/')).drop 1 with
  | stride :: sign :: offset =>
    ⟨range.first, range.last, hexNumber [stride],
      if sign = '-' then -(hexNumber offset : Int) else hexNumber offset⟩
  | _ => ⟨range.first, range.last, 1, 0⟩

/-- The shifts that a table writes. -/
def readShifts (lines : List String) : Array Shift :=
  ((tableEntries lines).map Shift.ofEntry).toArray

/-- Whether a shift maps a code point. -/
def Shift.applies (s : Shift) (n : Nat) : Bool :=
  s.first ≤ n && n ≤ s.last && (n - s.first) % s.stride == 0

/-- Where a shift maps a code point. -/
def Shift.apply (s : Shift) (n : Nat) : Nat :=
  ((n : Int) + s.offset).toNat

/-- The code points that a shift maps, each with where it maps them. -/
def Shift.pairs (s : Shift) : List (Nat × Nat) :=
  (List.range ((s.last - s.first) / s.stride + 1)).map fun i =>
    (s.first + i * s.stride, s.apply (s.first + i * s.stride))

/-- The code point that some shifts map `n` to; itself where none does. -/
def shifted (shifts : Array Shift) (n : Nat) : Nat :=
  match shifts.find? (·.applies n) with
  | some s => s.apply n
  | none => n

end Costing.Text
