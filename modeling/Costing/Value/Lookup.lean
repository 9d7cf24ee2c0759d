import Costing.Path
import Costing.Value.Basic

/-!
# Value — Lookup

Following a path down into a value.  A record takes an index as its decimal text, an array takes a
key that writes an index.
-/

namespace Costing.Value

/-- The index that a key writes: digits, a plus sign in front allowed. -/
def indexOfKey? (key : String) : Option Nat :=
  let digits :=
    match key.toList with
    | '+' :: cs => cs
    | cs => cs
  (Number.readNat? digits).filter (· < Segment.indexBound)

/-- The part of a value at one step. -/
def child? : Value → Segment → Option Value
  | record fields, .key name => Entries.get? name fields
  | record fields, .index n => Entries.get? (toString n) fields
  | array items, .index n => items[n]?
  | array items, .key name => (indexOfKey? name).bind (items[·]?)
  | _, _ => none

/-- The part of a value at the end of a path, if every step exists. -/
def at? (v : Value) : Path → Option Value
  | [] => some v
  | step :: rest => (v.child? step).bind (·.at? rest)

end Costing.Value
