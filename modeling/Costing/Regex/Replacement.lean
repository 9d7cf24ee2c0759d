import Costing.Regex.Search

/-!
# Regex — Replacement

Replacing matches by a template in which `$1`, `${1}`, `$name` and `${name}` stand for what a group
matched and `$$` for a dollar sign.
-/

namespace Costing.Regex

/-- A part of a template. -/
inductive TemplatePart where
  | char (c : Char)
  | reference (name : List Char)

/-- A character of a reference without braces. -/
def isReferenceChar (c : Char) : Bool :=
  c.isAlphanum || c == '_'

/-- The parts of a template.  Fuel bounds their number. -/
def readTemplate : Nat → List Char → List TemplatePart
  | 0, _ => []
  | _, [] => []
  | fuel + 1, '$' :: cs =>
    match cs with
    | '$' :: rest => .char '$' :: readTemplate fuel rest
    | '\x7b' :: inner =>
      match inner.dropWhile (· != '\x7d') with
      | _ :: rest => .reference (inner.takeWhile (· != '\x7d')) :: readTemplate fuel rest
      | [] => .char '$' :: readTemplate fuel cs
    | cs =>
      let name := cs.takeWhile isReferenceChar
      if name.isEmpty then .char '$' :: readTemplate fuel cs
      else .reference name :: readTemplate fuel (cs.dropWhile isReferenceChar)
  | fuel + 1, c :: cs => .char c :: readTemplate fuel cs

/-- The group that a reference means: by number or by name. -/
def groupIndex? (names : List (String × Nat)) (reference : List Char) : Option Nat :=
  let digits :=
    match reference with
    | '+' :: cs => cs
    | cs => cs
  match (Number.readNat? digits).filter (· < 1 <<< 64) with
  | some n => some n
  | none => names.lookup (String.ofList reference)

namespace Program

/-- A template with what the groups of a match stand for; a group that took no part is empty. -/
def expand (p : Program) (text : List Char) (template : List TemplatePart) (marks : Marks) :
    List Char :=
  template.flatMap fun
    | .char c => [c]
    | .reference name =>
      ((groupIndex? p.names name).bind (groupText? text marks)).getD []

/-- The text from a place on with the given matches replaced. -/
def replaceFrom (p : Program) (text : List Char) (template : List TemplatePart) (place : Nat) :
    List Marks → List Char
  | [] => text.drop place
  | marks :: rest =>
    let (first, stop) := (span? marks 0).getD (place, place)
    (text.drop place).take (first - place) ++ p.expand text template marks ++
      p.replaceFrom text template stop rest

/-- The text with the first match replaced, or with all of them. -/
def replace (p : Program) (every : Bool) (text template : String) : String :=
  let cs := text.toList
  let parts := readTemplate (template.toList.length + 1) template.toList
  let found := if every then p.all cs else (p.findFrom? cs 0).toList
  String.ofList (p.replaceFrom cs parts 0 found)

end Program

end Costing.Regex
