import Costing.Regex.Basic
import Costing.Text.Blank
import Costing.Text.Fold

/-!
# Regex — Flags

The switches that patterns are read under, such as `(?i)`, and what they make of characters and sets.
Under the flag `x` blanks and comments may stand between the parts of a pattern and within some of
them.
-/

namespace Costing.Regex

open Costing.Text (CharSet)

/-- The switches that the rest of a group is read under. -/
structure Flags where
  ignoreCase : Bool := false
  multiLine : Bool := false
  dotAll : Bool := false
  swapGreed : Bool := false
  unicode : Bool := true
  verbose : Bool := false
  anyLineBreak : Bool := false
deriving Repr, DecidableEq

/-- The characters after blanks and comments; `comment` says whether they start inside of one, which
ends with its line. -/
def skipNotes (comment : Bool) : List Char → List Char
  | [] => []
  | c :: cs =>
    if comment then skipNotes (c != '\n') cs
    else if Text.isBlank c then skipNotes false cs
    else if c == '#' then skipNotes true cs
    else c :: cs

/-- The characters up to a closing brace, and what follows the brace.  Blanks and comments do not
count where notes may stand. -/
def takeBraced? (notes comment : Bool) : List Char → Option (List Char × List Char)
  | [] => none
  | c :: cs =>
    if comment then takeBraced? notes (c != '\n') cs
    else if notes && Text.isBlank c then takeBraced? notes false cs
    else if notes && c == '#' then takeBraced? notes true cs
    else if c == '\x7d' then some ([], cs)
    else (takeBraced? notes false cs).map fun (text, rest) => (c :: text, rest)

namespace Flags

/-- The characters after what the flags let pass. -/
def skip (flags : Flags) (cs : List Char) : List Char :=
  if flags.verbose then skipNotes false cs else cs

/-- The character that seems to come next.  Only blanks and the mark of a comment are passed over, so
it may be one of the comment. -/
def glance? (flags : Flags) (cs : List Char) : Option Char :=
  if !flags.verbose then cs.head?
  else
    match Text.dropBlank cs with
    | '#' :: comment => (Text.dropBlank comment).head?
    | cs => cs.head?

/-- A set with the characters of other case, if case is ignored. -/
def foldSet (flags : Flags) (set : CharSet) : CharSet :=
  if !flags.ignoreCase then set
  else if flags.unicode then set.foldCase
  else set.foldAsciiCase

/-- The complement of a set, if it is negated.  Without Unicode there is none: it would hold bytes
that are no characters. -/
def negateSet? (flags : Flags) (negated : Bool) (set : CharSet) : Option CharSet :=
  if !negated then some set
  else if flags.unicode then some set.complement
  else none

/-- A set of a class: without Unicode it holds ASCII alone. -/
def allowSet? (flags : Flags) (set : CharSet) : Option CharSet :=
  if flags.unicode || set.isAscii then some set else none

/-- A character as it stands. -/
def literal (flags : Flags) (c : Char) : Regex :=
  .ofSet (flags.foldSet (.single c))

/-- Any character but, unless all are meant, the ends of lines. -/
def dot? (flags : Flags) : Option Regex :=
  if !flags.unicode then none
  else if flags.dotAll then some (.chars .all)
  else if flags.anyLineBreak then some (.chars (CharSet.ofTable ["a d"]).complement)
  else some (.chars (CharSet.single '\n').complement)

/-- The start or the end of a line or, unless lines are meant, of the text. -/
def anchor (flags : Flags) (atStart : Bool) : Look :=
  match flags.multiLine, flags.anyLineBreak, atStart with
  | false, _, true => .textStart
  | false, _, false => .textEnd
  | true, false, true => .lineStart
  | true, false, false => .lineEnd
  | true, true, true => .anyLineStart
  | true, true, false => .anyLineEnd

/-- Sets one flag by its letter. -/
def set? (flags : Flags) (letter : Char) (on : Bool) : Option Flags :=
  match letter with
  | 'i' => some { flags with ignoreCase := on }
  | 'm' => some { flags with multiLine := on }
  | 's' => some { flags with dotAll := on }
  | 'U' => some { flags with swapGreed := on }
  | 'u' => some { flags with unicode := on }
  | 'R' => some { flags with anyLineBreak := on }
  | 'x' => some { flags with verbose := on }
  | _ => none

/-- Sets flags by their letters, those after a hyphen off; no letter stands twice. -/
def setAll? (flags : Flags) (seen : List Char) (on : Bool) : List Char → Option Flags
  | [] => some flags
  | c :: cs =>
    if seen.contains c then none
    else if c == '-' then if cs.isEmpty then none else flags.setAll? (c :: seen) false cs
    else (flags.set? c on).bind fun flags => flags.setAll? (c :: seen) on cs

end Flags

end Costing.Regex
