import Costing.Text.Ranges

/-!
# Text — Name

How the names of properties and of their values are compared: case, blanks, hyphens, underscores and
a leading `is` make no difference.
-/

namespace Costing.Text

/-- What counts in a name: ASCII characters but blanks, hyphens and underscores, in lower case. -/
def foldName (cs : List Char) : List Char :=
  (cs.filter fun c => c.toNat < 128 && c != ' ' && c != '_' && c != '-').map Char.toLower

/-- A name as it is compared.  A leading `is` does not count, unless a single `c` follows. -/
def normalizeName (name : String) : List Char :=
  match name.toList with
  | i :: s :: rest =>
    if i.toLower == 'i' && s.toLower == 's' then
      let rest := foldName rest
      if rest = ['c'] then ['i', 's', 'c'] else rest
    else foldName (i :: s :: rest)
  | cs => foldName cs

/-- Whether one of some names, separated by blanks, is equal to a name. -/
def isNamed (names name : String) : Bool :=
  (pieces ' ' names.toList).any fun cs => foldName cs == normalizeName name

/-- The entry of a table that a name stands for. -/
def lookupNamed? {α : Type} (table : List (String × α)) (name : String) : Option α :=
  (table.find? fun (names, _) => isNamed names name).map Prod.snd

end Costing.Text
