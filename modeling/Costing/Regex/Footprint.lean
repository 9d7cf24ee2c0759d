import Costing.Regex.Basic
import Costing.Text.Utf8
import Std.Data.HashMap

/-!
# Regex — Footprint

How much space an expression takes as an automaton over bytes.  Patterns that take more than a limit
are refused, so this is counted out state by state: once for the automaton that reads texts forward
and once for the one that reads them backward.  An automaton shares the states that read the last
bytes of the characters of a set; what it remembers of them has a fixed size, so it may build some of
them twice.
-/

namespace Costing.Regex

open Costing.Text (Range CharSet)

/-- What an automaton has grown to: its states, and the bytes that they hold beside their own. -/
structure Footprint where
  states : Nat := 0
  held : Nat := 0
deriving Repr, DecidableEq

namespace Footprint

/-- The bytes that an automaton takes at most. -/
def limit : Nat := 10 * 1024 * 1024

/-- The bytes that an automaton takes. -/
def bytes (f : Footprint) : Nat := 32 * f.states + f.held

/-- Grows by states and by what they hold, up to the limit. -/
def grow? (f : Footprint) (states held : Nat) : Option Footprint :=
  let f : Footprint := ⟨f.states + states, f.held + held⟩
  if f.bytes ≤ limit then some f else none

/-- What a state holds that goes on with some byte ranges. -/
def rangesHeld (count : Nat) : Nat := 8 * count

/-- What a fork holds for its ways on. -/
def waysHeld (count : Nat) : Nat := 4 * count

/-- Lets the end of a part lead on: a fork gets one more way. -/
def lead? (f : Footprint) (fork : Bool) : Option Footprint :=
  if fork then f.grow? 0 (waysHeld 1) else some f

end Footprint

/-- A part of an automaton that is added: tells whether it ends in a fork. -/
abbrev Part := Footprint → Option (Bool × Footprint)

namespace Part

/-- A state that leads on. -/
def nothing : Part := fun f => do
  return (false, ← f.grow? 1 0)

/-- More copies of a part after one that ends as given. -/
def again (part : Part) : Nat → Bool → Part
  | 0, fork, f => some (fork, f)
  | n + 1, fork, f => do
    let (next, f) ← part f
    let f ← f.lead? fork
    again part n next f

/-- Copies of a part after each other. -/
def exactly (part : Part) : Nat → Part
  | 0, f => nothing f
  | n + 1, f => do
    let (fork, f) ← part f
    again part n fork f

/-- Copies of a part, each of which may be left out with those after it, after one that ends as
given. -/
def upTo (part : Part) : Nat → Bool → Part
  | 0, fork, f => do
    return (false, ← f.lead? fork)
  | n + 1, fork, f => do
    let f ← f.grow? 1 (Footprint.waysHeld 2)
    let (next, f) ← part f
    let f ← f.lead? fork
    upTo part n next f

/-- A part that may be left out. -/
def optional (part : Part) : Part := fun f => do
  let f ← f.grow? 1 (Footprint.waysHeld 2)
  let (fork, f) ← part f
  let f ← f.grow? 1 0
  return (false, ← f.lead? fork)

/-- A part as often as it goes, in front of which a fork stands. -/
def star (part : Part) : Part := fun f => do
  let f ← f.grow? 1 (Footprint.waysHeld 1)
  let (fork, f) ← part f
  return (true, ← f.lead? fork)

/-- A part that may match the empty text, as often as it goes. -/
def starOfEmpty (part : Part) : Part := fun f => do
  let (fork, f) ← part f
  let f ← f.grow? 1 (Footprint.waysHeld 2)
  let f ← f.lead? fork
  return (false, ← f.grow? 2 (Footprint.waysHeld 2))

/-- Copies of a part, the last of which may be repeated. -/
def plus (part : Part) (least : Nat) : Part := fun f => do
  let (fork, f) ← exactly part least f
  let f ← f.grow? 1 (Footprint.waysHeld 1)
  return (true, ← f.lead? fork)

/-- A part from some times up to as many times, or to any number. -/
def repeated (part : Part) (mayBeEmpty : Bool) (min : Nat) (max : Option Nat) : Part :=
  match min, max with
  | 0, some 1 => optional part
  | 0, none => if mayBeEmpty then starOfEmpty part else star part
  | min, none => plus part min
  | min, some max => fun f =>
    if min = max then exactly part min f
    else do
      let (fork, f) ← exactly part min f
      let f ← f.grow? 1 0
      upTo part (max - min) fork f

end Part

/-! ### Sets of characters -/

/-- Mixes a number into a hash value. -/
def mix (h : UInt64) (n : Nat) : UInt64 :=
  (h ^^^ n.toUInt64) * 1099511628211

/-- The hash value of no numbers. -/
def hashStart : UInt64 := 14695981039346656037

/-- Sequences of byte ranges in their order, those with the same start joined.  The last branch stands
outside. -/
inductive ByteTree where
  | leaf
  | branch (before : ByteTree) (range : Range) (rest : ByteTree)

namespace ByteTree

/-- Adds a sequence after the others. -/
def add : List Range → ByteTree → ByteTree
  | [], t => t
  | r :: rs, branch before last rest =>
    if last = r then branch before last (add rs rest)
    else branch (branch before last rest) r (add rs leaf)
  | r :: rs, leaf => branch leaf r (add rs leaf)

/-- The sequences that encode the characters of a set. -/
def ofSet (set : CharSet) : ByteTree :=
  (set.ranges.flatMap Text.Utf8.sequences).foldl (fun t rs => t.add rs) leaf

end ByteTree

/-- A state as byte ranges and the states that they lead to. -/
abbrev Branches := List (Range × Nat)

/-- The place of a state in a table of states to be remembered. -/
def Branches.place (branches : Branches) : Nat :=
  (branches.foldl (fun h (range, next) => mix (mix (mix h range.first) range.last) next)
    hashStart).toNat % 10000

/-- An automaton with the states that it remembers by their places in a table. -/
structure Forward where
  footprint : Footprint
  known : Std.HashMap Nat (Branches × Nat) := {}

namespace Forward

/-- A new state, to be remembered. -/
def new? (s : Forward) (branches : Branches) (place : Nat) : Option (Nat × Forward) := do
  let id := s.footprint.states
  let footprint ← s.footprint.grow? 1 (Footprint.rangesHeld branches.length)
  return (id, { footprint, known := s.known.insert place (branches, id) })

/-- A state with some branches: the one that is remembered, or a new one. -/
def state? (s : Forward) (branches : Branches) : Option (Nat × Forward) :=
  let place := branches.place
  match s.known[place]? with
  | some (branches', id) => if branches' == branches then some (id, s) else s.new? branches place
  | none => s.new? branches place

/-- The states of a tree whose leaves lead to `target`: its branches, the last first. -/
def branches? (target : Nat) : ByteTree → Forward → Option (Branches × Forward)
  | .leaf, s => some ([], s)
  | .branch before range rest, s => do
    let (branches, s) ← branches? target before s
    let (inner, s) ← branches? target rest s
    let (next, s) ← if inner.isEmpty then some (target, s) else s.state? inner.reverse
    return ((range, next) :: branches, s)

end Forward

/-- The characters of a set, read forward. -/
def Part.forwardSet (tree : ByteTree) : Part := fun f => do
  let target := f.states
  let f ← f.grow? 1 0
  let (branches, s) ← Forward.branches? target tree { footprint := f }
  let (_, s) ← s.state? branches.reverse
  return (false, s.footprint)

/-- An automaton with the states that it remembers by their places in a table: what a state leads to,
and its byte range. -/
structure Backward where
  footprint : Footprint
  known : Std.HashMap Nat (Nat × Range × Nat) := {}

namespace Backward

/-- A new state, to be remembered. -/
def new? (s : Backward) (next : Nat) (range : Range) (place : Nat) : Option (Nat × Backward) := do
  let id := s.footprint.states
  let footprint ← s.footprint.grow? 1 0
  return (id, { footprint, known := s.known.insert place (next, range, id) })

/-- A state that reads a byte and leads to `next`: the one that is remembered, or a new one. -/
def state? (s : Backward) (next : Nat) (range : Range) : Option (Nat × Backward) :=
  let place := (mix (mix (mix hashStart next) range.first) range.last).toNat % 1000
  match s.known[place]? with
  | some (next', range', id) =>
    if next' == next && range' == range then some (id, s) else s.new? next range place
  | none => s.new? next range place

/-- States that read a sequence of bytes and lead to `next`. -/
def sequence? (next : Nat) : List Range → Backward → Option Backward
  | [], s => some s
  | range :: rest, s => do
    let (id, s) ← s.state? next range
    sequence? id rest s

/-- Sequences of bytes that all lead to `target`; a fork leads to them. -/
def sequences? (target : Nat) : List (List Range) → Backward → Option Backward
  | [], s => some s
  | ranges :: rest, s => do
    let s ← s.sequence? target ranges
    let footprint ← s.footprint.grow? 0 (Footprint.waysHeld 1)
    sequences? target rest { s with footprint }

end Backward

/-- The characters of a set, read backward. -/
def Part.backwardSet (sequences : List (List Range)) : Part := fun f => do
  let f ← f.grow? 2 0
  let s ← Backward.sequences? (f.states - 1) sequences { footprint := f }
  return (false, s.footprint)

/-! ### Choices between texts -/

/-- Texts by their bytes.  The branches with the same right of way ascend; a stop is where a text
ends, and stands in front of what has right of way over what comes later. -/
inductive TextTree where
  | nothing
  | branch (byte : Nat) (rest : TextTree) (others : TextTree)
  | stop (before : TextTree)

namespace TextTree

/-- Changes what follows a byte among the branches that may still be added to. -/
def update (byte : Nat) (change : TextTree → TextTree) : TextTree → TextTree
  | branch b rest others =>
    if b = byte then branch b (change rest) others
    else if b < byte then branch b rest (update byte change others)
    else branch byte (change nothing) (branch b rest others)
  | t => branch byte (change nothing) t

/-- Ends a text. -/
def finish : TextTree → TextTree
  | stop nothing => stop nothing
  | t => stop t

/-- Adds a text after the others. -/
def add : List Nat → TextTree → TextTree
  | [], t => t.finish
  | byte :: bytes, t => t.update byte (add bytes)

/-- Whether no text goes on. -/
def isLeaf : TextTree → Bool
  | nothing => true
  | branch .. => false
  | stop t => t.isLeaf

/-- What branches with the same right of way take: a state, and a way of the fork that leads to it. -/
def branchesSize (count : Nat) : Footprint :=
  match count with
  | 0 => {}
  | 1 => ⟨1, Footprint.waysHeld 1⟩
  | count => ⟨1, Footprint.rangesHeld count + Footprint.waysHeld 1⟩

/-- What a tree takes below its fork, `count` branches seen since the last stop. -/
def size (count : Nat) : TextTree → Footprint
  | nothing => branchesSize count
  | stop before =>
    let here := branchesSize count
    let other := size 0 before
    ⟨here.states + other.states, here.held + other.held + Footprint.waysHeld 1⟩
  | branch _ rest others =>
    let inner := if rest.isLeaf then {} else size 0 rest
    let fork := if rest.isLeaf then 0 else 1
    let other := size (count + 1) others
    ⟨inner.states + fork + other.states, inner.held + other.held⟩

end TextTree

/-- The bytes that encode a text. -/
def textBytes (cs : List Char) : List Nat :=
  cs.flatMap fun c => Text.Utf8.encode c.toNat

/-- What one of some texts takes. -/
def textsSize (texts : List (List Nat)) : Footprint :=
  let size := (texts.foldl (fun (t : TextTree) bytes => t.add bytes) .nothing).size 0
  ⟨size.states + 2, size.held⟩

/-! ### Expressions -/

/-- An expression prepared for being added, in one of the directions, as often as is needed. -/
inductive Piece where
  /-- States that end in no fork. -/
  | states (size : Footprint)
  | forwardSet (tree : ByteTree)
  | backwardSet (sequences : List (List Range))
  | seq (pieces : List Piece)
  | alt (pieces : List Piece)
  | rep (piece : Piece) (mayBeEmpty : Bool) (min : Nat) (max : Option Nat)
  /-- Between the marks of a group. -/
  | marked (piece : Piece)

namespace Piece

/-- The characters of a set. -/
def ofSet (backward : Bool) (set : CharSet) : Piece :=
  if set.isAscii then states ⟨2, Footprint.rangesHeld set.ranges.length⟩
  else if backward then backwardSet (set.ranges.flatMap Text.Utf8.sequences)
  else forwardSet (ByteTree.ofSet set)

/-- The bytes of a literal. -/
def literal? (backward : Bool) : Regex → Option (List Nat)
  | .literal cs =>
    let bytes := textBytes cs
    some (if backward then bytes.reverse else bytes)
  | _ => none

mutual

/-- The piece of an expression.  Backward automata have no marks of groups. -/
def ofRegex (backward : Bool) : Regex → Piece
  | .empty => states ⟨1, 0⟩
  | .literal cs => states ⟨(textBytes cs).length, 0⟩
  | .chars set => ofSet backward set
  | .look _ => states ⟨1, 0⟩
  | .seq parts =>
    let pieces := ofAll backward parts
    seq (if backward then pieces.reverse else pieces)
  | .alt choices =>
    match choices.mapM (literal? backward) with
    | some texts => states (textsSize texts)
    | none => alt (ofAll backward choices)
  | .rep r min max _ =>
    rep (ofRegex backward r) ((minLength? r).getD 0 == 0) min max
  | .group _ r => if backward then ofRegex backward r else marked (ofRegex backward r)

/-- The pieces of some expressions. -/
def ofAll (backward : Bool) : List Regex → List Piece
  | [] => []
  | r :: rest => ofRegex backward r :: ofAll backward rest

end

mutual

/-- What a piece adds to an automaton. -/
def part : Piece → Part
  | states size, f => do
    return (false, ← f.grow? size.states size.held)
  | forwardSet tree, f => Part.forwardSet tree f
  | backwardSet sequences, f => Part.backwardSet sequences f
  | seq pieces, f => seqPart false pieces f
  | alt pieces, f => altPart 0 pieces f
  | rep piece mayBeEmpty min max, f => Part.repeated (part piece) mayBeEmpty min max f
  | marked piece, f => do
    let f ← f.grow? 1 0
    let (fork, f) ← part piece f
    let f ← f.grow? 1 0
    return (false, ← f.lead? fork)

/-- What pieces add after one that ends as given. -/
def seqPart (fork : Bool) : List Piece → Part
  | [], f => some (fork, f)
  | piece :: rest, f => do
    let (next, f) ← part piece f
    let f ← f.lead? fork
    seqPart next rest f

/-- What choices add, some before them added.  The fork that leads to them and the state after them
come after the second. -/
def altPart (before : Nat) : List Piece → Part
  | [], f => some (false, f)
  | piece :: rest, f => do
    let (fork, f) ← part piece f
    let f ← f.grow? (if before = 1 then 2 else 0) (Footprint.waysHeld 1)
    let f ← f.lead? fork
    altPart (before + 1) rest f

end

end Piece

mutual

/-- Whether every match meets a condition before its first character, or after its last. -/
def requires (condition : Look) (atEnd : Bool) : Regex → Bool
  | .empty | .literal _ | .chars _ => false
  | .look c => c == condition
  | .seq parts => requiresIn condition atEnd parts
  | .alt choices => requiresAll condition atEnd choices
  | .rep r min _ _ => min != 0 && requires condition atEnd r
  | .group _ r => requires condition atEnd r

/-- Whether one of some parts meets a condition with nothing but the empty text before it, or after
it. -/
def requiresIn (condition : Look) (atEnd : Bool) : List Regex → Bool
  | [] => false
  | r :: rest =>
    if atEnd then
      requiresIn condition atEnd rest ||
        (allOnlyEmpty rest && requires condition atEnd r)
    else
      requires condition atEnd r ||
        (onlyEmpty r && requiresIn condition atEnd rest)

/-- Whether all of some choices meet a condition. -/
def requiresAll (condition : Look) (atEnd : Bool) : List Regex → Bool
  | [] => true
  | r :: rest => requires condition atEnd r && requiresAll condition atEnd rest

end

/-- What an expression takes as a whole: what passes over the text in front of a match, unless none
may stand there, the expression with the marks of the match, and the state that accepts. -/
def footprint? (backward : Bool) (r : Regex) : Option Footprint := do
  let anchored := requires (if backward then .textEnd else .textStart) backward r
  let f : Footprint := {}
  let f ←
    if anchored then f.grow? 1 0
    else f.grow? 3 (Footprint.rangesHeld 1 + Footprint.waysHeld 2)
  let (fork, f) ← (Piece.ofRegex backward (.group 0 r)).part f
  let f ← f.grow? 1 0
  f.lead? fork

/-- Whether an expression keeps to the limit in both directions. -/
def fits (r : Regex) : Bool :=
  (footprint? false r).isSome && (footprint? true r).isSome

end Costing.Regex
