/-!
# Json

Documents as trees.  Members keep their order and may repeat a name, so that a reader can refuse the
repetition.  `unreadable` stands for a part that is well formed and may be skipped but has no value:
a number out of range, a character escape without a character, or nesting past the limit.
-/

namespace Costing

/-- A document; `natural` is an integer without a sign that fits in 64 bits. -/
inductive Json where
  | null
  | bool (b : Bool)
  | natural (n : Nat)
  | number (x : Float)
  | string (s : String)
  | array (items : List Json)
  | object (members : List (String × Json))
  | unreadable
deriving Repr, Inhabited

namespace Json

/-- Naturals are below this bound. -/
def naturalBound : Nat := 1 <<< 64

/-- A text or null. -/
def ofString? : Option String → Json
  | some s => string s
  | none => null

/-- A number or null. -/
def ofNumber? : Option Float → Json
  | some x => number x
  | none => null

/-- A natural number or null. -/
def ofNatural? : Option Nat → Json
  | some n => natural n
  | none => null

end Json

end Costing
