/-!
# Text — Search

Finding one text inside another.  `breakOn?` finds the first occurrence; counting, splitting and
replacing go from one occurrence to the next, so occurrences never overlap.
-/

namespace Costing.Text

/-- What stands before and after the first occurrence of `d`. -/
def breakOn? (d : List Char) : List Char → Option (List Char × List Char)
  | [] => if d.isEmpty then some ([], []) else none
  | c :: cs =>
    match d.isPrefixOf? (c :: cs) with
    | some rest => some ([], rest)
    | none => (breakOn? d cs).map fun (before, rest) => (c :: before, rest)

/-- The pieces between the occurrences of `d`, which is not empty. -/
def splitChars (d s : List Char) : List (List Char) :=
  match breakOn? d s with
  | none => [s]
  | some (before, rest) =>
    if rest.length < s.length then before :: splitChars d rest else [s]
termination_by s.length

/-- Whether `needle` occurs in `s`; the empty text occurs everywhere. -/
def contains (s needle : String) : Bool :=
  (breakOn? needle.toList s.toList).isSome

/-- The pieces of `s` between the occurrences of a separator; an empty separator splits between all
characters. -/
def splitOn (s separator : String) : List String :=
  if separator.isEmpty then s.toList.map String.singleton
  else (splitChars separator.toList s.toList).map String.ofList

/-- Every occurrence of `search` replaced; an empty `search` occurs nowhere. -/
def replaceAll (s search replacement : String) : String :=
  if search.isEmpty then s else replacement.intercalate (splitOn s search)

/-- What stands before and after the first `d`. -/
def cutAt? (s : String) (d : Char) : Option (String × String) :=
  (breakOn? [d] s.toList).map fun (before, rest) => (String.ofList before, String.ofList rest)

/-- Equal up to the case of ASCII letters. -/
def sameIgnoringCase (a b : String) : Bool :=
  a.toLower == b.toLower

/-- Whether `s` ends with `ending`. -/
def endsWith (s ending : String) : Bool :=
  ending.toList.isSuffixOf s.toList

end Costing.Text
