import Costing.Formula.Builtin.Arguments
import Costing.Regex.Engine
import Costing.Text.Blank
import Costing.Text.Search
import Costing.Value.Lookup

/-!
# Formula — Collection functions

Counting, searching, splitting and joining, and following a path into a value.
-/

namespace Costing.Formula.Builtin

variable [Json.Codec] [Regex.Engine]

/-- The number of characters, items or fields. -/
def lengthOf : Value → Nat
  | .null => 0
  | .string s => s.length
  | .array items => items.length
  | .record fields => fields.length
  | v => v.toText.length

/-- Whether an array has an item, a record a field or a text a part. -/
def hasPart (whole part : Value) : Bool :=
  match whole with
  | .null => false
  | .array items => items.any (·.same part)
  | .record fields => (Entries.get? part.toText fields).isSome
  | v => Text.contains v.toText part.toText

/-- What the runs of blanks leave of a text, as the pattern for them finds them. -/
def splitBlanks (s : String) : List String :=
  match Regex.compile? {} "\\s+" with
  | some blanks => blanks.split s
  | none => [s]

/-- The pieces of a text: what runs of blanks leave of the trimmed text, or what a separator leaves. -/
def splitText (s : String) : Option Value → List String
  | none =>
    let trimmed := Text.trim s
    if trimmed.isEmpty then [] else splitBlanks trimmed
  | some separator => Text.splitOn s separator.toText

/-- `split(value, delimiter?)`; null has no pieces. -/
def applySplit (args : Arguments) : Value :=
  match args.nth 0 with
  | .null => .array []
  | v => .array ((splitText v.toText (args.given? 1)).map .string)

/-- `join(array, delimiter?)`; the delimiter is a comma unless one is given. -/
def applyJoin (args : Arguments) : Value :=
  let delimiter := ((args.given? 1).map Value.toText).getD ","
  match args.nth 0 with
  | .array items => .string (delimiter.intercalate (Value.itemTexts items))
  | v => .string v.toText

/-- The path that an argument of `get` means: a text, or the number of an item. -/
def pathOf : Value → Except Fault Path
  | .string text =>
    match Path.parse text with
    | .ok path => .ok path
    | .error fault => .error (.argument (.path text fault))
  | .number x =>
    if Number.isWhole x && x ≥ 0 then
      .ok [.index (Nat.min (Number.truncate x).toNat (Segment.indexBound - 1))]
    else .error (.argument (.pathKind (Value.number x).kindName))
  | v => .error (.argument (.pathKind v.kindName))

/-- `get(value, path)`; what is missing is null. -/
def applyGet (args : Arguments) : Outcome := do
  let path ← pathOf (args.nth 1)
  return ((args.nth 0).at? path).getD .null

end Costing.Formula.Builtin
