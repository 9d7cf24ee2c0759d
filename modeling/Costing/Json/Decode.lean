import Costing.Json.Basic

/-!
# Json — Decode

Reading a document as a value of a given shape.  A structure is written as an object, in which each
field has some names, no field may stand twice and other members are skipped, or as an array of the
first fields in order.
-/

namespace Costing.Json

/-- A text. -/
def string? : Json → Option String
  | string s => some s
  | _ => none

/-- A truth value. -/
def bool? : Json → Option Bool
  | bool b => some b
  | _ => none

/-- A number. -/
def number? : Json → Option Float
  | natural n => some (Float.ofNat n)
  | number x => some x
  | _ => none

/-- A natural number written without point and exponent. -/
def natural? : Json → Option Nat
  | natural n => some n
  | _ => none

/-- A list of what `item` reads. -/
def list? {α : Type} (item : Json → Option α) : Json → Option (List α)
  | array items => items.mapM item
  | _ => none

/-- What `value` reads, or null for nothing. -/
def nullable? {α : Type} (value : Json → Option α) : Json → Option (Option α)
  | null => some none
  | j => (value j).map some

/-- An object whose members `value` reads; of two with one name the later counts. -/
def members? {α : Type} (value : Json → Option α) : Json → Option (List (String × α))
  | object members => members.mapM fun (name, j) => (value j).map (name, ·)
  | _ => none

/-- The name of a case without content: the name alone, or as the only member, with null. -/
def caseName? : Json → Option String
  | string s => some s
  | object [(name, null)] => some name
  | _ => none

/-- The members that stand for one field, whose names are given. -/
def named (names : List String) (members : List (String × Json)) : List Json :=
  (members.filter fun (name, _) => names.contains name).map Prod.snd

/-- What stands for one field of an object: nothing, or one member. -/
def field? (names : List String) (members : List (String × Json)) : Option (Option Json) :=
  match named names members with
  | [] => some none
  | [j] => some (some j)
  | _ => none

/-- What stands for each field of a structure, whose names are given in order. -/
def fields? (names : List (List String)) : Json → Option (List (Option Json))
  | object members => names.mapM (field? · members)
  | array items =>
    if items.length ≤ names.length then
      some (items.map some ++ List.replicate (names.length - items.length) none)
    else none
  | _ => none

/-- A field that must stand. -/
def required? {α : Type} (value : Json → Option α) (field : Option Json) : Option α :=
  field.bind value

/-- A field that may be missing. -/
def optional? {α : Type} (value : Json → Option α) (missing : α) : Option Json → Option α
  | none => some missing
  | some j => value j

mutual

/-- Whether a document has a value in all its parts. -/
def isReadable : Json → Bool
  | array items => areReadable items
  | object members => haveReadable members
  | unreadable => false
  | _ => true

/-- Whether all items have a value. -/
def areReadable : List Json → Bool
  | [] => true
  | item :: rest => isReadable item && areReadable rest

/-- Whether all members have a value. -/
def haveReadable : List (String × Json) → Bool
  | [] => true
  | (_, value) :: rest => isReadable value && haveReadable rest

end

end Costing.Json
