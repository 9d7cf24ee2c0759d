import Costing.Text.Derived

/-!
# Text — Letter

Letters, numbers and cased characters as names of groups and changes of case know them: by version 17
of the character database, told from version 16 by what it added and took away.
-/

namespace Costing.Text

namespace Letter

/-- Characters that words are written with. -/
def alphabetic : Array Range :=
  (Derived.alphabetic.union <| .ofTable
    ["88f c5c cdc a7ce-a7cf a7d2 a7d4 a7f1 10940-10959 10ec5-10ec7 10efa-10efb 11b60-11b67",
     "11db0-11ddb 16ea0-16eb8 16ebb-16ed3 16ff2-16ff6 187f8-187ff 18d09-18d1e 18d80-18df2",
     "1e6c0-1e6de 1e6e0-1e6f5 1e6fe-1e6ff 2b73a-2b73f 2cea2-2cead 323b0-33479"]).toArray

/-- Numbers of any kind. -/
def numeric : Array Range :=
  ((Category.set Category.isNumber).union <| .ofTable
    ["11de0-11de9 16ff4-16ff6"]).toArray

/-- Characters that have a case. -/
def cased : Array Range :=
  ((Derived.cased.diff <| .ofTable ["295"]).union <| .ofTable
    ["a7ce-a7cf a7d2 a7d4 a7f1 16ea0-16eb8 16ebb-16ed3"]).toArray

/-- Characters that the case of a word does not depend on. -/
def caseIgnorable : Array Range :=
  (Derived.caseIgnorable.union <| .ofTable
    ["1acf-1add 1ae0-1aeb a7f1 10ec5 10efa-10efb 11b60 11b62-11b64 11b66 11dd9 16ff2-16ff3 1e6e3",
     "1e6e6 1e6ee-1e6ef 1e6f5 1e6ff"]).toArray

end Letter

/-- A character that words are written with. -/
def isAlphabetic (c : Char) : Bool := inRanges Letter.alphabetic c.toNat

/-- A number of any kind. -/
def isNumeric (c : Char) : Bool := inRanges Letter.numeric c.toNat

/-- A character that has a case. -/
def isCased (c : Char) : Bool := inRanges Letter.cased c.toNat

/-- A character that the case of a word does not depend on. -/
def isCaseIgnorable (c : Char) : Bool := inRanges Letter.caseIgnorable c.toNat

end Costing.Text
