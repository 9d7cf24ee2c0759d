import Costing.Number.Literal

/-!
# Path

Dotted paths into a data tree: names separated by points, each followed by any number of subscripts
in brackets (`stages[0].outputs["area"]`).  A name of digits addresses an index.  `Path.parse` reads
a path, `Path.render` writes one.
-/

namespace Costing

/-- One step of a path. -/
inductive Segment where
  | key (name : String)
  | index (n : Nat)
deriving Repr, DecidableEq

/-- The steps from a value down to one of its parts. -/
abbrev Path := List Segment

/-- Why a text is no path. -/
inductive PathFault where
  | empty
  | emptySegment
  | trailingPoint
  | subscriptWithoutName
  | unclosedBracket
  | emptySubscript
  | unexpectedBracket
  | missingPoint
deriving Repr, DecidableEq

/-- The wording of a fault. -/
def PathFault.reason : PathFault → String
  | .empty => "empty path"
  | .emptySegment => "empty segment"
  | .trailingPoint => "trailing '.'"
  | .subscriptWithoutName => "subscript without a name"
  | .unclosedBracket => "unclosed '['"
  | .emptySubscript => "empty subscript"
  | .unexpectedBracket => "unexpected ']'"
  | .missingPoint => "expected '.' after subscript"

namespace Segment

/-- Indices are below this bound. -/
def indexBound : Nat := 1 <<< 64

/-- A name of digits that writes an index within bounds is that index; any other name is a key. -/
def ofName (name : List Char) : Segment :=
  match Number.readNat? name with
  | some n => if n < indexBound then .index n else .key (String.ofList name)
  | none => .key (String.ofList name)

/-- The key of a segment that is no index. -/
def key? : Segment → Option String
  | .key name => some name
  | .index _ => none

/-- A key as it is, an index in brackets. -/
def render : Segment → String
  | .key name => name
  | .index n => "[" ++ toString n ++ "]"

end Segment

namespace Path

/-- The text between two quotes of one kind. -/
def unquote? (quote : Char) : List Char → Option (List Char)
  | [] => none
  | c :: cs =>
    if c == quote && cs.getLast? == some quote then some cs.dropLast else none

/-- What a subscript names: its text without blanks at the ends and without one pair of quotes. -/
def subscriptName (inner : List Char) : List Char :=
  let trimmed := Text.trimChars inner
  ((unquote? '"' trimmed).or (unquote? '\'' trimmed)).getD trimmed

/-- A path as far as it is read. -/
structure Reading where
  /-- The finished segments, the last one first. -/
  done : List Segment := []
  /-- The characters of the name being read, the last one first. -/
  name : List Char := []
  /-- A subscript has just been closed. -/
  closed : Bool := false

/-- Ends the name being read. -/
def Reading.finishName (r : Reading) : Reading :=
  if r.name.isEmpty then r
  else { r with done := Segment.ofName r.name.reverse :: r.done, name := [] }

/-- Reads the rest of a path. -/
def readFrom (r : Reading) (cs : List Char) : Except PathFault Path :=
  match cs with
  | [] => .ok r.finishName.done.reverse
  | '.' :: cs =>
    if r.name.isEmpty && !r.closed then .error .emptySegment
    else if cs.isEmpty then .error .trailingPoint
    else readFrom { r.finishName with closed := false } cs
  | '[' :: cs =>
    if r.name.isEmpty && r.done.isEmpty then .error .subscriptWithoutName
    else
      let inner := cs.takeWhile (· != ']')
      match h : cs.dropWhile (· != ']') with
      | [] => .error .unclosedBracket
      | _ :: rest =>
        let name := subscriptName inner
        if name.isEmpty then .error .emptySubscript
        else
          have : rest.length < cs.length := by
            have := (List.dropWhile_suffix (l := cs) (· != ']')).length_le
            rw [h] at this
            exact this
          let r := r.finishName
          readFrom { r with done := Segment.ofName name :: r.done, closed := true } rest
  | ']' :: _ => .error .unexpectedBracket
  | c :: cs =>
    if r.closed && r.name.isEmpty then .error .missingPoint
    else readFrom { r with name := c :: r.name } cs
termination_by cs.length

/-- The steps that a text names. -/
def parse (text : String) : Except PathFault Path :=
  let cs := Text.trimChars text.toList
  if cs.isEmpty then .error .empty else readFrom {} cs

/-- The canonical text: a point before every key but the first, indices in brackets. -/
def renderOnto (text : String) : Path → String
  | [] => text
  | .key name :: rest =>
    renderOnto ((if text.isEmpty then text else text.push '.') ++ name) rest
  | .index n :: rest => renderOnto (text ++ (Segment.index n).render) rest

/-- The canonical text of a path. -/
def render (path : Path) : String :=
  renderOnto "" path

end Path

end Costing
