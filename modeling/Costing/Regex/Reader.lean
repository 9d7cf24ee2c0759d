import Costing.Number.Literal
import Costing.Regex.Bracket
import Costing.Regex.Footprint
import Costing.Text.Letter

/-!
# Regex — Reader

The text of a pattern as a regular expression.  Text that is no pattern gives nothing.  Flags such as
`(?i)` hold up to the end of the group they stand in.
-/

namespace Costing.Regex

/-- What is left of a pattern, and what has been counted so far. -/
structure Reading where
  rest : List Char
  flags : Flags
  /-- The capture groups opened so far. -/
  groups : Nat := 0
  /-- The names of capture groups. -/
  names : List (String × Nat) := []

/-- Expressions nest at most this deep. -/
def depthLimit : Nat := 250

/-- A part of a pattern with the depth of its nesting, or a change of flags. -/
inductive Item where
  | flags
  | part (r : Regex) (depth : Nat)

/-- The largest depth of some items. -/
def itemsDepth (items : List Item) : Nat :=
  items.foldl
    (fun depth item =>
      match item with
      | .flags => depth
      | .part _ d => max depth d) 0

/-- Items after each other. -/
def joinItems (items : List Item) : Regex × Nat :=
  let parts := items.filterMap fun
    | .flags => none
    | .part r _ => some r
  (.join parts, if items.length < 2 then itemsDepth items else itemsDepth items + 1)

/-- One of some lists of items. -/
def joinChoices (choices : List (List Item)) : Regex × Nat :=
  match choices with
  | [items] => joinItems items
  | choices =>
    let joined := choices.map joinItems
    (.choose (joined.map Prod.fst), joined.foldl (fun depth (_, d) => max depth d) 0 + 1)

/-! ### Repetition -/

/-- Digits, with notes between them where these may stand, and what follows them. -/
def takeCount (notes comment : Bool) : List Char → List Char × List Char
  | [] => ([], [])
  | c :: cs =>
    if comment then takeCount notes (c != '\n') cs
    else if notes && Text.isBlank c then takeCount notes false cs
    else if notes && c == '#' then takeCount notes true cs
    else if c.isDigit then
      let (digits, rest) := takeCount notes false cs
      (c :: digits, rest)
    else ([], c :: cs)

/-- A count: at least one digit, below `2 ^ 32`, between blanks. -/
def readCount? (flags : Flags) (cs : List Char) : Option (Nat × List Char) := do
  let (digits, rest) := takeCount flags.verbose false (Text.dropBlank cs)
  let n ← Number.readNat? digits
  if n < 1 <<< 32 then return (n, Text.dropBlank rest) else none

/-- The bounds of a counted repetition, `\x7b` taken. -/
def readBounds? (flags : Flags) (cs : List Char) : Option (Nat × Option Nat × List Char) := do
  let (least, rest) ← readCount? flags (flags.skip cs)
  match rest with
  | '\x7d' :: rest => return (least, some least, flags.skip rest)
  | ',' :: rest =>
    match flags.skip rest with
    | '\x7d' :: rest => return (least, none, flags.skip rest)
    | rest =>
      let (most, rest) ← readCount? flags rest
      match rest with
      | '\x7d' :: rest =>
        if most < least then none else return (least, some most, flags.skip rest)
      | _ => none
  | _ => none

/-- Repeats the last of some items, given in reverse, unless it would nest too deep; a question mark
makes it lazy. -/
def repeatLast? (flags : Flags) (least : Nat) (most : Option Nat) (items : List Item)
    (cs : List Char) : Option (List Item × List Char) :=
  match items with
  | .part r depth :: items =>
    let (lazy, rest) :=
      match cs with
      | '?' :: rest => (true, rest)
      | rest => (false, rest)
    if depth < depthLimit then
      let r := Regex.repeated r least most (lazy == flags.swapGreed)
      some (.part r (depth + 1) :: items, rest)
    else none
  | _ => none

/-! ### Groups -/

/-- A character that the name of a group may start with. -/
def isGroupStart (c : Char) : Bool :=
  c == '_' || Text.isAlphabetic c

/-- A character that the name of a group may go on with. -/
def isGroupChar (c : Char) : Bool :=
  isGroupStart c || c == '.' || c == '[' || c == ']' || Text.isNumeric c

/-- The name of a group up to the closing angle, and what follows it. -/
def readGroupName? (cs : List Char) : Option (String × List Char) :=
  let name := cs.takeWhile (· != '>')
  match name, cs.dropWhile (· != '>') with
  | first :: others, _ :: rest =>
    if isGroupStart first && others.all isGroupChar then some (String.ofList name, rest) else none
  | _, _ => none

/-- What a parenthesis opens. -/
inductive Opening where
  /-- New flags for the rest of the group around it. -/
  | flags (flags : Flags)
  | capture (name : Option String)
  | plain (flags : Flags)

/-- What a parenthesis opens, the parenthesis taken. -/
def readOpening? (flags : Flags) (cs : List Char) : Option (Opening × List Char) :=
  match flags.skip cs with
  | '?' :: 'P' :: '<' :: cs => (readGroupName? cs).map fun (name, rest) => (.capture name, rest)
  | '?' :: '<' :: cs =>
    match cs with
    | '=' :: _ | '!' :: _ => none
    | cs => (readGroupName? cs).map fun (name, rest) => (.capture name, rest)
  | '?' :: cs =>
    let letters := cs.takeWhile fun c => c != ':' && c != ')'
    match cs.dropWhile fun c => c != ':' && c != ')' with
    | ')' :: rest =>
      if letters.isEmpty then none
      else (flags.setAll? [] true letters).map fun flags => (.flags flags, rest)
    | ':' :: rest => (flags.setAll? [] true letters).map fun flags => (.plain flags, rest)
    | _ => none
  | cs => some (.capture none, cs)

/-- Opens a capture group; a name may be given once. -/
def Reading.openGroup? (s : Reading) (name : Option String) : Option (Nat × Reading) :=
  let index := s.groups + 1
  match name with
  | none => some (index, { s with groups := index })
  | some name =>
    if (s.names.lookup name).isSome then none
    else some (index, { s with groups := index, names := (name, index) :: s.names })

/-- What a character outside groups, classes and repetitions stands for. -/
def readPrimitive? (flags : Flags) : List Char → Option (Regex × List Char)
  | [] => none
  | '.' :: cs => flags.dot?.map (·, cs)
  | '^' :: cs => some (.look (flags.anchor true), cs)
  | '$' :: cs => some (.look (flags.anchor false), cs)
  | '\\' :: cs => do
    let (escape, rest) ← readEscape? flags cs
    let r :=
      match escape with
      | .char c => flags.literal c
      | .set set => .ofSet set
      | .look condition => .look condition
    return (r, rest)
  | c :: cs => some (flags.literal c, cs)

/-- The choices up to the end of a group or of the pattern, whose finished choices and items of the
current choice are given in reverse.  Fuel bounds the parts. -/
def readChoices? (fuel : Nat) (choices : List (List Item)) (items : List Item) (s : Reading) :
    Option (Regex × Nat × Reading) :=
  match fuel with
  | 0 => none
  | fuel + 1 =>
    let flags := s.flags
    let rest := flags.skip s.rest
    match rest with
    | [] | ')' :: _ =>
      let (r, depth) := joinChoices ((items.reverse :: choices).reverse)
      some (r, depth, { s with rest })
    | '|' :: rest => readChoices? fuel (items.reverse :: choices) [] { s with rest }
    | '(' :: rest => do
      let (opening, rest) ← readOpening? flags rest
      match opening with
      | .flags flags => readChoices? fuel choices (.flags :: items) { s with rest, flags }
      | .plain inner =>
        let (r, depth, s) ← readChoices? fuel [] [] { s with rest, flags := inner }
        match s.rest with
        | ')' :: rest =>
          readChoices? fuel choices (.part r (depth + 1) :: items) { s with rest, flags }
        | _ => none
      | .capture name =>
        let (index, s) ← s.openGroup? name
        let (r, depth, s) ← readChoices? fuel [] [] { s with rest, flags }
        match s.rest with
        | ')' :: rest =>
          readChoices? fuel choices (.part (.group index r) (depth + 1) :: items)
            { s with rest, flags }
        | _ => none
    | '[' :: rest => do
      let (negated, inner, rest) := openClass flags rest
      let (set, depth, rest) ← readClass? fuel flags negated inner rest
      readChoices? fuel choices (.part (.ofSet set) depth :: items) { s with rest }
    | '?' :: rest => do
      let (items, rest) ← repeatLast? flags 0 (some 1) items rest
      readChoices? fuel choices items { s with rest }
    | '*' :: rest => do
      let (items, rest) ← repeatLast? flags 0 none items rest
      readChoices? fuel choices items { s with rest }
    | '+' :: rest => do
      let (items, rest) ← repeatLast? flags 1 none items rest
      readChoices? fuel choices items { s with rest }
    | '\x7b' :: rest => do
      let (least, most, rest) ← readBounds? flags rest
      let (items, rest) ← repeatLast? flags least most items rest
      readChoices? fuel choices items { s with rest }
    | rest => do
      let (r, rest) ← readPrimitive? flags rest
      readChoices? fuel choices (.part r 0 :: items) { s with rest }

/-- The regular expression of a pattern and the names of its groups. -/
def read? (flags : Flags) (pattern : String) : Option (Regex × List (String × Nat)) := do
  let cs := pattern.toList
  let (r, depth, s) ← readChoices? (cs.length + 2) [] [] { rest := cs, flags }
  if s.rest.isEmpty && depth ≤ depthLimit && r.fits then return (r, s.names) else none

end Costing.Regex
