import Costing.Text.Age
import Costing.Text.Break

/-!
# Text — Named

Sets of characters by the names that patterns give them: digits, blanks and characters of words, the
ASCII classes, and the properties of the character database in version 16.
-/

namespace Costing.Text

namespace CharSet

/-- Decimal digits of any script. -/
def digit : CharSet :=
  Category.set (· == .decimalNumber)

/-- Blanks. -/
def space : CharSet :=
  Property.set .whiteSpace

/-- Characters of words: alphabetic ones, marks, decimal digits, connectors and joiners. -/
def word : CharSet :=
  .unions
    [Derived.alphabetic,
      Category.set fun c => c.isMark || c == .decimalNumber || c == .connectorPunctuation,
      Property.set .joinControl]

/-- ASCII digits. -/
def asciiDigit : CharSet := between '0' '9'

/-- ASCII blanks. -/
def asciiSpace : CharSet := ⟨[⟨9, 13⟩, ⟨32, 32⟩]⟩

/-- ASCII letters, digits and the underscore. -/
def asciiWord : CharSet :=
  ⟨[⟨48, 57⟩, ⟨65, 90⟩, ⟨95, 95⟩, ⟨97, 122⟩]⟩

/-- The ASCII class of a name between `[:` and `:]`. -/
def asciiClass? : String → Option CharSet
  | "alnum" => some ⟨[⟨48, 57⟩, ⟨65, 90⟩, ⟨97, 122⟩]⟩
  | "alpha" => some ⟨[⟨65, 90⟩, ⟨97, 122⟩]⟩
  | "ascii" => some ⟨[⟨0, 127⟩]⟩
  | "blank" => some ⟨[⟨9, 9⟩, ⟨32, 32⟩]⟩
  | "cntrl" => some ⟨[⟨0, 31⟩, ⟨127, 127⟩]⟩
  | "digit" => some asciiDigit
  | "graph" => some ⟨[⟨33, 126⟩]⟩
  | "lower" => some ⟨[⟨97, 122⟩]⟩
  | "print" => some ⟨[⟨32, 126⟩]⟩
  | "punct" => some ⟨[⟨33, 47⟩, ⟨58, 64⟩, ⟨91, 96⟩, ⟨123, 126⟩]⟩
  | "space" => some asciiSpace
  | "upper" => some ⟨[⟨65, 90⟩]⟩
  | "word" => some asciiWord
  | "xdigit" => some ⟨[⟨48, 57⟩, ⟨65, 70⟩, ⟨97, 102⟩]⟩
  | _ => none

/-- The characters of a general category or a group of them, or of all that are assigned. -/
def category? (name : String) : Option CharSet :=
  if isNamed "Any" name then some all
  else if isNamed "Assigned" name then some (Category.set (· == .unassigned)).complement
  else if isNamed "ASCII" name then some ⟨[⟨0, 127⟩]⟩
  else Category.named? name

/-- The set of a name alone: a property, a general category or a script. -/
def named? (name : String) : Option CharSet :=
  ((Property.named? name).or (category? name)).or ((Script.named? name).map Script.set)

/-- The properties that have values, each with the set that the name of a value stands for. -/
def byProperty : List (String × (String → Option CharSet)) :=
  [("General_Category gc", category?),
    ("Script sc", fun name => (Script.named? name).map Script.set),
    ("Script_Extensions scx", Script.extended?),
    ("Age", Age.set?),
    ("Grapheme_Cluster_Break gcb", GraphemeBreak.named?),
    ("Word_Break wb", WordBreak.named?),
    ("Sentence_Break sb", SentenceBreak.named?)]

/-- The set of a property with a value. -/
def valued? (property value : String) : Option CharSet :=
  (lookupNamed? byProperty property).bind fun set? => set? value

end CharSet

/-- The characters of words, as an array for fast membership. -/
def wordRanges : Array Range := CharSet.word.toArray

/-- A character of words; the table is read beyond ASCII only. -/
def isWordChar (c : Char) : Bool :=
  if c.toNat < 128 then c.isAlphanum || c == '_' else inRanges wordRanges c.toNat

end Costing.Text
