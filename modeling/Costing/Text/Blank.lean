/-!
# Text — Blank

The characters that count as blank everywhere in formulas, paths and documents: the Unicode
White_Space characters.  `trim` drops them at both ends of a text.
-/

namespace Costing.Text

/-- A White_Space character. -/
def isBlank (c : Char) : Bool :=
  let n := c.toNat
  (9 ≤ n && n ≤ 13) || n == 0x20 || n == 0x85 || n == 0xA0 || n == 0x1680 ||
    (0x2000 ≤ n && n ≤ 0x200A) || n == 0x2028 || n == 0x2029 || n == 0x202F || n == 0x205F ||
    n == 0x3000

/-- The characters without the blanks in front. -/
def dropBlank (cs : List Char) : List Char :=
  cs.dropWhile isBlank

/-- The characters without the blanks at either end. -/
def trimChars (cs : List Char) : List Char :=
  (dropBlank (dropBlank cs).reverse).reverse

/-- The text without the blanks at either end. -/
def trim (s : String) : String :=
  String.ofList (trimChars s.toList)

/-- Nothing but blanks. -/
def isAllBlank (s : String) : Bool :=
  s.toList.all isBlank

end Costing.Text
