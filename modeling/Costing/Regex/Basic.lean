import Costing.Text.Named

/-!
# Regex

Regular expressions with capture groups, lazy and greedy repetition and conditions on the place of a
match.  `ofSet`, `join`, `choose` and `repeated` build them in a simple form: what always matches the same
text is one literal, nothing is nested without need, and choices share no parts in front.
-/

namespace Costing

open Costing.Text (CharSet)

/-- A condition on a place between characters. -/
inductive Look where
  | textStart
  | textEnd
  | lineStart
  | lineEnd
  /-- Lines end in a carriage return, a line feed or the two together. -/
  | anyLineStart
  | anyLineEnd
  | wordBoundary (ascii : Bool)
  | noWordBoundary (ascii : Bool)
  | wordStart (ascii : Bool)
  | wordEnd (ascii : Bool)
  | noWordBefore (ascii : Bool)
  | noWordAfter (ascii : Bool)
deriving Repr, DecidableEq

namespace Look

/-- Whether a character is one of a word. -/
def isWordChar (ascii : Bool) (c : Char) : Bool :=
  if ascii then c.isAlphanum || c == '_' else Text.isWordChar c

/-- Whether a condition holds between two neighbours, of which either may be missing. -/
def holds (condition : Look) (before after : Option Char) : Bool :=
  let wordBefore (ascii : Bool) := before.any (isWordChar ascii)
  let wordAfter (ascii : Bool) := after.any (isWordChar ascii)
  match condition with
  | .textStart => before.isNone
  | .textEnd => after.isNone
  | .lineStart => before.all (· == '\n')
  | .lineEnd => after.all (· == '\n')
  | .anyLineStart => before.all fun c => c == '\n' || (c == '\r' && after != some '\n')
  | .anyLineEnd => after.all fun c => c == '\r' || (c == '\n' && before != some '\r')
  | .wordBoundary ascii => wordBefore ascii != wordAfter ascii
  | .noWordBoundary ascii => wordBefore ascii == wordAfter ascii
  | .wordStart ascii => !wordBefore ascii && wordAfter ascii
  | .wordEnd ascii => wordBefore ascii && !wordAfter ascii
  | .noWordBefore ascii => !wordBefore ascii
  | .noWordAfter ascii => !wordAfter ascii

end Look

/-- A regular expression. -/
inductive Regex where
  /-- The empty text. -/
  | empty
  /-- A text as it stands. -/
  | literal (cs : List Char)
  /-- One of some characters. -/
  | chars (set : CharSet)
  | look (condition : Look)
  | seq (parts : List Regex)
  | alt (choices : List Regex)
  | rep (r : Regex) (min : Nat) (max : Option Nat) (greedy : Bool)
  | group (index : Nat) (r : Regex)
deriving Repr, Inhabited

namespace Regex

mutual

/-- Whether the empty text may match. -/
def nullable : Regex → Bool
  | empty => true
  | literal cs => cs.isEmpty
  | chars _ => false
  | look _ => true
  | seq parts => allNullable parts
  | alt choices => anyNullable choices
  | rep r min _ _ => min == 0 || nullable r
  | group _ r => nullable r

/-- Whether the empty text may match every part. -/
def allNullable : List Regex → Bool
  | [] => true
  | r :: rest => nullable r && allNullable rest

/-- Whether the empty text may match some choice. -/
def anyNullable : List Regex → Bool
  | [] => false
  | r :: rest => nullable r || anyNullable rest

end

mutual

/-- The least number of characters of a match; none where some part never matches. -/
def minLength? : Regex → Option Nat
  | empty => some 0
  | literal cs => some cs.length
  | chars set => if set.ranges.isEmpty then none else some 1
  | look _ => some 0
  | seq parts => minLengthSum? parts
  | alt choices => minLengthLeast? choices
  | rep r min _ _ => (minLength? r).map (· * min)
  | group _ r => minLength? r

/-- The least lengths of parts added up. -/
def minLengthSum? : List Regex → Option Nat
  | [] => some 0
  | r :: rest => do return (← minLength? r) + (← minLengthSum? rest)

/-- The smallest of the least lengths of choices. -/
def minLengthLeast? : List Regex → Option Nat
  | [] => none
  | [r] => minLength? r
  | r :: rest => do return Nat.min (← minLength? r) (← minLengthLeast? rest)

end

mutual

/-- Whether a match is there and can only be the empty text. -/
def onlyEmpty : Regex → Bool
  | empty => true
  | literal cs => cs.isEmpty
  | chars _ => false
  | look _ => true
  | seq parts => allOnlyEmpty parts
  | alt choices => !choices.isEmpty && allOnlyEmpty choices
  | rep r _ max _ => max == some 0 || (max.isSome && onlyEmpty r)
  | group _ r => onlyEmpty r

/-- Whether the empty text alone matches each of some expressions. -/
def allOnlyEmpty : List Regex → Bool
  | [] => true
  | r :: rest => onlyEmpty r && allOnlyEmpty rest

end

mutual

/-- Whether two expressions are built alike. -/
def same : Regex → Regex → Bool
  | empty, empty => true
  | literal cs, literal ds => cs == ds
  | chars a, chars b => a == b
  | look a, look b => a == b
  | seq as, seq bs => sameAll as bs
  | alt as, alt bs => sameAll as bs
  | rep a min max greedy, rep b min' max' greedy' =>
    min == min' && max == max' && greedy == greedy' && same a b
  | group i a, group j b => i == j && same a b
  | _, _ => false

/-- Whether the expressions of two lists are built alike. -/
def sameAll : List Regex → List Regex → Bool
  | [], [] => true
  | a :: as, b :: bs => same a b && sameAll as bs
  | _, _ => false

end

/-- The expression that nothing matches. -/
def never : Regex := chars .empty

/-- One of the characters of a set. -/
def ofSet (set : CharSet) : Regex :=
  match set.single? with
  | some c => literal [c]
  | none => chars set

/-- The parts that an expression puts after each other. -/
def parts : Regex → List Regex
  | empty => []
  | seq parts => parts
  | r => [r]

/-- Adds a part in front of others; a literal joins a literal. -/
def consPart (r : Regex) (rest : List Regex) : List Regex :=
  match r, rest with
  | literal cs, literal ds :: rest => literal (cs ++ ds) :: rest
  | r, rest => r :: rest

/-- Expressions after each other. -/
def join (rs : List Regex) : Regex :=
  match (rs.flatMap parts).foldr consPart [] with
  | [] => empty
  | [r] => r
  | rs => seq rs

/-- The choices that an expression leaves. -/
def choices : Regex → List Regex
  | alt choices => choices
  | r => [r]

/-- The character of a literal of one. -/
def char? : Regex → Option Char
  | literal [c] => some c
  | _ => none

/-- The set that one character is taken from. -/
def set? : Regex → Option CharSet
  | chars set => some set
  | _ => none

/-- One of some expressions, which share no parts in front. -/
def chooseApart (rs : List Regex) : Regex :=
  match rs.flatMap choices with
  | [] => never
  | [r] => r
  | rs =>
    match rs.mapM char?, rs.mapM set? with
    | some cs, _ => ofSet (.unions (cs.map .single))
    | none, some sets => ofSet (.unions sets)
    | none, none => alt rs

/-- The parts that two lists have in common in front. -/
def commonParts : List Regex → List Regex → List Regex
  | a :: as, b :: bs => if same a b then a :: commonParts as bs else []
  | _, _ => []

/-- The parts of an expression of more than one. -/
def seqParts? : Regex → Option (List Regex)
  | seq parts => some parts
  | _ => none

/-- One of some expressions; what all have in front stands before the choice. -/
def choose (rs : List Regex) : Regex :=
  match chooseApart rs with
  | alt rs =>
    match rs.mapM seqParts? with
    | some (first :: others) =>
      let common := others.foldl commonParts first
      if common.isEmpty then alt rs
      else
        let rests := (first :: others).map fun parts => join (parts.drop common.length)
        join (common ++ [chooseApart rests])
    | _ => alt rs
  | r => r

/-- An expression some times after each other.  What matches the empty text alone is not repeated. -/
def repeated (r : Regex) (min : Nat) (max : Option Nat) (greedy : Bool) : Regex :=
  let once := r.onlyEmpty
  let min := if once then Nat.min min 1 else min
  let max := if once then some (Nat.min (max.getD 1) 1) else max
  if min = 0 && max == some 0 then empty
  else if min = 1 && max == some 1 then r
  else rep r min max greedy

end Regex

end Costing
