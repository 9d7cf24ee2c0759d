import Costing.Proofs.Text.Ranges
import Costing.Proofs.Text.Words
import Costing.Regex.Engine

/-!
# Regex — runs of blanks

The pattern `\s+` stands for White_Space characters, one or more and as many as there are.  Whatever engine compiles
it, what it leaves of a trimmed text are words, if the engine does what is said of patterns.

* `FindsBlanks`: a matcher of `\s+` finds the runs of White_Space characters.
* `FindsBlanks.replace_all`: with a space for each run, a text is squeezed.
* `FindsBlanks.words_eq_split`: **the words of a text are what runs of blanks leave of it.**
-/

namespace Costing.Regex

open Costing.Text (CharSet Leaves isBlank)

/-- A character with the property White_Space, as the tables of properties have it. -/
def isSpace (c : Char) : Bool :=
  Text.inRanges CharSet.space.ranges.toArray c.toNat

/-- White_Space characters are those that trimming drops. -/
theorem isSpace_eq : isSpace = isBlank :=
  funext Text.inRanges_space

/-- The engine compiles `\s+` to a matcher that finds the runs of White_Space characters from left to right, each as
long as it is: splitting leaves what is around them, and replacing them all puts spaces in their places. -/
structure FindsBlanks [Engine] (blanks : Matcher) : Prop where
  compiled : compile? {} "\\s+" = some blanks
  split (text : String) : Leaves isSpace text.toList ((blanks.split text).map String.toList)
  replace (text : String) : blanks.replace true text " " = " ".intercalate (blanks.split text)

namespace FindsBlanks

variable [Engine] {blanks : Matcher} (h : FindsBlanks blanks)

include h

theorem leaves_split (text : String) : Leaves isBlank text.toList ((blanks.split text).map String.toList) :=
  isSpace_eq ▸ h.split text

/-- With every run of blanks replaced by a space, a text is squeezed. -/
theorem replace_all (text : String) : blanks.replace true text " " = Text.squeezed text := by
  rw [h.replace, ← String.toList_inj, String.toList_intercalate]
  exact (h.leaves_split text).intercalate.trans String.toList_ofList.symm

/-- **The words of a text** are what runs of blanks leave of the trimmed text, unless that is empty. -/
theorem words_eq_split (s : String) :
    Text.words s = if Text.trim s = "" then [] else blanks.split (Text.trim s) := by
  have hwords : Text.wordsFrom [] s.toList = Text.wordsFrom [] (Text.trim s).toList := by
    rw [Text.toList_trim, Text.wordsFrom_trimChars]
  rw [Text.words, hwords]
  split
  · next hempty =>
      rw [hempty]
      rfl
  · next hne =>
      have htrimmed : Text.Trimmed (Text.trim s).toList := by
        rw [Text.toList_trim]
        exact Text.trimmed_trimChars s.toList
      rw [← (h.leaves_split _).eq_wordsFrom htrimmed (mt String.toList_eq_nil_iff.1 hne), List.map_map]
      exact List.map_id'' (fun _ => String.ofList_toList) _

end FindsBlanks

end Costing.Regex
