import Costing.Regex.Program

/-!
# Regex — Search

Finding matches: the leftmost place at which the program accepts, and of the ways to match there the
preferred one.  All ways advance through the text together, in order of preference, so no text takes
more steps than its length times that of the program.
-/

namespace Costing.Regex

/-- The places that marks were set at, by slot. -/
abbrev Marks := List (Nat × Nat)

/-- Sets a mark. -/
def Marks.set (marks : Marks) (slot place : Nat) : Marks :=
  (slot, place) :: marks.filter (·.1 != slot)

/-- A way to match: the instruction it waits at and its marks. -/
structure Way where
  waits : Nat
  marks : Marks

/-- The ways at one place of the text, in order of preference, and the instructions reached. -/
structure Front where
  reached : Array Bool
  ways : Array Way

namespace Program

/-- No way yet. -/
def emptyFront (p : Program) : Front :=
  ⟨Array.replicate p.code.size false, #[]⟩

/-- Adds the ways that start from some instructions without taking a character; the first
instruction is followed first.  Fuel bounds the instructions followed. -/
def follow (p : Program) (before after : Option Char) (place : Nat) :
    Nat → List Way → Front → Front
  | 0, _, front => front
  | _, [], front => front
  | fuel + 1, way :: rest, front =>
    if front.reached[way.waits]?.getD true then p.follow before after place fuel rest front
    else
      let front := { front with reached := front.reached.setIfInBounds way.waits true }
      match p.code[way.waits]? with
      | some (.fork first second) =>
        p.follow before after place fuel
          ({ way with waits := first } :: { way with waits := second } :: rest) front
      | some (.check condition next) =>
        if condition.holds before after then
          p.follow before after place fuel ({ way with waits := next } :: rest) front
        else p.follow before after place fuel rest front
      | some (.mark slot next) =>
        p.follow before after place fuel
          ({ waits := next, marks := way.marks.set slot place } :: rest) front
      | some (.take ..) | some .accept =>
        p.follow before after place fuel rest { front with ways := front.ways.push way }
      | none => p.follow before after place fuel rest front

/-- Adds the ways from one instruction. -/
def enter (p : Program) (before after : Option Char) (place : Nat) (way : Way) (front : Front) :
    Front :=
  p.follow before after place (3 * p.code.size + 2) [way] front

/-- Takes a character, or none at the end, along the ways up to the first that accepts.  Gives the
ways after it and the marks of an accepting way. -/
def advance (p : Program) (c next : Option Char) (place : Nat) :
    List Way → Front → Front × Option Marks
  | [], front => (front, none)
  | way :: rest, front =>
    match p.code[way.waits]? with
    | some .accept => (front, some way.marks)
    | some (.take set target) =>
      match c with
      | some d =>
        if Text.inRanges set d.toNat then
          p.advance c next place rest
            (p.enter c next (place + 1) { way with waits := target } front)
        else p.advance c next place rest front
      | none => p.advance c next place rest front
    | _ => p.advance c next place rest front

/-- Runs along the rest of a text, the best match so far given. -/
def run (p : Program) (before : Option Char) (place : Nat) (front : Front) (best : Option Marks) :
    List Char → Option Marks
  | [] =>
    let front :=
      if best.isNone then p.enter before none place ⟨p.start, []⟩ front else front
    ((p.advance none none place front.ways.toList p.emptyFront).2).or best
  | c :: cs =>
    let front :=
      if best.isNone then p.enter before (some c) place ⟨p.start, []⟩ front else front
    let (after, found) := p.advance (some c) cs.head? place front.ways.toList p.emptyFront
    let best := found.or best
    if best.isSome && after.ways.isEmpty then best
    else p.run (some c) (place + 1) after best cs

/-- The marks of the first match from a place on. -/
def findFrom? (p : Program) (text : List Char) (place : Nat) : Option Marks :=
  let before := if place = 0 then none else text[place - 1]?
  p.run before place p.emptyFront none (text.drop place)

/-- What a group matched, as characters from one place up to another. -/
def span? (marks : Marks) (index : Nat) : Option (Nat × Nat) := do
  return (← marks.lookup (2 * index), ← marks.lookup (2 * index + 1))

/-- The text that a group matched. -/
def groupText? (text : List Char) (marks : Marks) (index : Nat) : Option (List Char) :=
  (span? marks index).map fun (first, last) => (text.drop first).take (last - first)

/-- Whether the pattern matches somewhere. -/
def isMatch (p : Program) (text : String) : Bool :=
  (p.findFrom? text.toList 0).isSome

/-- What the groups took of the first match, by number. -/
def captures? (p : Program) (text : String) : Option (Nat → Option String) :=
  let cs := text.toList
  (p.findFrom? cs 0).map fun marks index => (groupText? cs marks index).map String.ofList

/-- All matches from a place on, of which none is an empty one at the end of the one before.  Fuel
bounds their number. -/
def allFrom (p : Program) (text : List Char) : Nat → Nat → Option Nat → List Marks
  | 0, _, _ => []
  | fuel + 1, place, last =>
    if place > text.length then []
    else
      match p.findFrom? text place with
      | none => []
      | some marks =>
        match span? marks 0 with
        | none => []
        | some (first, stop) =>
          if first = stop && last == some stop then p.allFrom text fuel (stop + 1) none
          else marks :: p.allFrom text fuel stop (some stop)

/-- All matches, from left to right. -/
def all (p : Program) (text : List Char) : List Marks :=
  p.allFrom text (2 * text.length + 2) 0 none

/-- What matches leave of the text from a place on. -/
def piecesFrom (text : List Char) (place : Nat) : List Marks → List (List Char)
  | [] => [text.drop place]
  | marks :: rest =>
    let (first, stop) := (span? marks 0).getD (place, place)
    (text.drop place).take (first - place) :: piecesFrom text stop rest

/-- The pieces of a text between the matches of a pattern. -/
def pieces (p : Program) (text : String) : List String :=
  (piecesFrom text.toList 0 (p.all text.toList)).map String.ofList

end Program

end Costing.Regex
