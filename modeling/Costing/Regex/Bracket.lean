import Costing.Regex.Escape

/-!
# Regex — Bracket

Classes in brackets: single characters and ranges, named sets, classes within classes and the
operations `&&`, `--` and `~~` between them.
-/

namespace Costing.Regex

open Costing.Text (CharSet)

/-- An operation between two sets of a class. -/
inductive SetOp where
  | inter
  | diff
  | symmDiff

/-- A class as far as it is read. -/
structure ClassReading where
  /-- The left side and the operation before the current items. -/
  pending : Option (CharSet × Nat × SetOp) := none
  /-- The items since then, joined. -/
  items : List Text.Range := []
  /-- Their number and the largest depth of one. -/
  count : Nat := 0
  depth : Nat := 0

namespace ClassReading

/-- Adds an item. -/
def add (r : ClassReading) (set : CharSet) (depth : Nat) : ClassReading :=
  { r with
    items := set.ranges ++ r.items
    count := r.count + 1
    depth := max r.depth depth }

/-- The set read so far and its depth. -/
def close (flags : Flags) (r : ClassReading) : CharSet × Nat :=
  let items := CharSet.ofRanges r.items
  let depth := if r.count < 2 then r.depth else r.depth + 1
  match r.pending with
  | none => (items, depth)
  | some (left, leftDepth, op) =>
    let left := flags.foldSet left
    let right := flags.foldSet items
    let set :=
      match op with
      | .inter => left.inter right
      | .diff => left.diff right
      | .symmDiff => left.symmDiff right
    (set, max leftDepth depth + 1)

/-- Starts the right side of an operation. -/
def operate (flags : Flags) (r : ClassReading) (op : SetOp) : ClassReading :=
  let (set, depth) := r.close flags
  { pending := some (set, depth, op) }

end ClassReading

/-- A named ASCII class, `[` taken: its set and whether all but it is meant.  Anything else is read as
a class in brackets. -/
def readAsciiClass? (cs : List Char) : Option (CharSet × Bool × List Char) := do
  let (negated, cs) ←
    match cs with
    | ':' :: '^' :: cs => some (true, cs)
    | ':' :: cs => some (false, cs)
    | _ => none
  let name := cs.takeWhile (· != ':')
  match cs.dropWhile (· != ':') with
  | ':' :: ']' :: rest => return (← CharSet.asciiClass? (String.ofList name), negated, rest)
  | _ => none

/-- A single item of a class: a character as it stands or an escape. -/
def readClassItem? (flags : Flags) : List Char → Option (Escape × List Char)
  | [] => none
  | '\\' :: cs => readEscape? flags cs
  | c :: cs => some (.char c, cs)

/-- The characters from one item of a class on: a range, or the item alone. -/
def readClassRange? (flags : Flags) (cs : List Char) : Option (CharSet × List Char) := do
  let (first, cs) ← readClassItem? flags cs
  let alone : Option CharSet :=
    match first with
    | .char c => flags.allowSet? (.single c)
    | .set set => some set
    | .look _ => none
  match flags.skip cs with
  | [] => none
  | '-' :: rest =>
    if flags.glance? rest == some ']' || flags.glance? rest == some '-' then
      return (← alone, '-' :: rest)
    else
      let (last, rest) ← readClassItem? flags (flags.skip rest)
      match first, last with
      | .char a, .char b =>
        if b < a then none else return (← flags.allowSet? (.between a b), rest)
      | _, _ => none
  | rest => return (← alone, rest)

/-- The hyphens at the start of a class, as items, and notes between them. -/
def readHyphens (notes comment : Bool) (r : ClassReading) : List Char → ClassReading × List Char
  | [] => (r, [])
  | c :: cs =>
    if comment then readHyphens notes (c != '\n') r cs
    else if notes && Text.isBlank c then readHyphens notes false r cs
    else if notes && c == '#' then readHyphens notes true r cs
    else if c == '-' then readHyphens notes false (r.add (.single '-') 0) cs
    else (r, c :: cs)

/-- How a class starts, `[` taken: whether it is negated and its first items. -/
def openClass (flags : Flags) (cs : List Char) : Bool × ClassReading × List Char :=
  let (negated, cs) :=
    match flags.skip cs with
    | '^' :: cs => (true, cs)
    | cs => (false, cs)
  let (r, cs) := readHyphens flags.verbose false {} cs
  match r.count, cs with
  | 0, ']' :: cs => (negated, r.add (.single ']') 0, cs)
  | _, cs => (negated, r, cs)

/-- The rest of a class up to its closing bracket.  Fuel bounds the items. -/
def readClass? (fuel : Nat) (flags : Flags) (negated : Bool) (r : ClassReading) (cs : List Char) :
    Option (CharSet × Nat × List Char) :=
  match fuel with
  | 0 => none
  | fuel + 1 =>
    match flags.skip cs with
    | [] => none
    | ']' :: rest => do
      let (set, depth) := r.close flags
      return (← flags.negateSet? negated (flags.foldSet set), depth + 1, rest)
    | '&' :: '&' :: rest => readClass? fuel flags negated (r.operate flags .inter) rest
    | '-' :: '-' :: rest => readClass? fuel flags negated (r.operate flags .diff) rest
    | '~' :: '~' :: rest => readClass? fuel flags negated (r.operate flags .symmDiff) rest
    | '[' :: rest =>
      match readAsciiClass? rest with
      | some (set, others, rest) => do
        let set ← flags.negateSet? others (flags.foldSet set)
        readClass? fuel flags negated (r.add set 0) rest
      | none => do
        let (innerNegated, inner, rest) := openClass flags rest
        let (set, depth, rest) ← readClass? fuel flags innerNegated inner rest
        readClass? fuel flags negated (r.add set depth) rest
    | cs => do
      let (set, rest) ← readClassRange? flags cs
      readClass? fuel flags negated (r.add set 0) rest

end Costing.Regex
