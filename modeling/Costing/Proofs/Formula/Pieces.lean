import Costing.Formula.Eval
import Costing.Proofs.Regex.Runs

/-!
# Formula — the pieces of a text

* `join_split`: **what a separator splits, it joins.**
* `split_words`: **a text splits into its words unless a separator is given.**
-/

namespace Costing

theorem Value.itemTexts_strings [Json.Codec] (pieces : List String) : itemTexts (pieces.map .string) = pieces := by
  induction pieces with
  | nil => rfl
  | cons piece pieces ih => rw [List.map_cons, itemTexts, ih, toText]

namespace Formula.Builtin

section

variable [Platform]

theorem applySplit_of_ne_null {v : Value} (hv : v ≠ .null) (rest : Arguments) :
    applySplit (v :: rest) = .array ((splitText v.toText (Arguments.given? (v :: rest) 1)).map .string) := by
  rw [applySplit]
  split
  · next hnull => exact absurd hnull hv
  · rfl

theorem applyJoin_strings (pieces : List String) (d : String) :
    applyJoin [.array (pieces.map .string), .string d] = .string (d.intercalate pieces) :=
  congrArg (fun texts => Value.string (d.intercalate texts)) (Value.itemTexts_strings pieces)

/-- **What a separator splits, it joins**: the pieces of any value with the separator between them are its text. -/
theorem join_split (v : Value) (d : String) :
    (do
      let pieces ← Builtin.split.apply [v, .string d]
      Builtin.join.apply [pieces, .string d]) = .ok (.string v.toText) ∧
      Builtin.toString.apply [v] = .ok (.string v.toText) := by
  refine ⟨congrArg Except.ok ?_, rfl⟩
  show applyJoin [applySplit [v, .string d], .string d] = .string v.toText
  by_cases hv : v = .null
  · -- null has no pieces, and no text
    subst hv
    rfl
  · rw [applySplit_of_ne_null hv, applyJoin_strings]
    exact congrArg Value.string (Text.intercalate_splitOn v.toText d)

/-- The matcher of a run of blanks is what the pattern for one compiles to, with the flag for every match. -/
theorem compilePattern_blanks {blanks : Regex.Matcher} (h : Regex.FindsBlanks blanks) :
    compilePattern "\\s+" "g" = .ok (blanks, true) := by
  have hflags : readFlags "g" {} [] "g".toList = .ok { every := true } := rfl
  simp only [compilePattern, hflags, h.compiled]

/-- A text without a separator splits into its words. -/
theorem splitText_none {blanks : Regex.Matcher} (h : Regex.FindsBlanks blanks) (s : String) :
    splitText s none = Text.words s := by
  simp only [splitText, splitBlanks, h.compiled, h.words_eq_split, String.isEmpty_iff]

/-- **A text splits into its words** unless a separator is given: what the runs of blanks leave of the trimmed text.
None is empty or has a blank, and together they are all of the text but its blanks.  With spaces between them they are
the trimmed text with a space for every run of blanks, and that text has the same words. -/
theorem split_words {blanks : Regex.Matcher} (h : Regex.FindsBlanks blanks) (s : String) :
    Builtin.split.apply [.string s] = .ok (.array ((Text.words s).map .string)) ∧
      (Text.words s = if Text.trim s = "" then [] else blanks.split (Text.trim s)) ∧
      (∀ w ∈ Text.words s, w ≠ "" ∧ ∀ c ∈ w.toList, Text.isBlank c = false) ∧
      String.join (Text.words s) = String.ofList (s.toList.filter fun c => !Text.isBlank c) ∧
      Builtin.join.apply [.array ((Text.words s).map .string), .string " "] =
        .ok (.string (Text.squeezed (Text.trim s))) ∧
      Builtin.replace.apply [.string (Text.trim s), .string "\\s+", .string " ", .string "g"] =
        .ok (.string (Text.squeezed (Text.trim s))) ∧
      Builtin.split.apply [.string (Text.squeezed (Text.trim s))] = .ok (.array ((Text.words s).map .string)) := by
  have hsplit (t : String) : Builtin.split.apply [.string t] = .ok (.array ((Text.words t).map .string)) := by
    show Except.ok (Value.array ((splitText t none).map .string)) = _
    rw [splitText_none h]
  refine ⟨hsplit s, h.words_eq_split s, fun w hw => ?_, Text.join_words s, ?_, ?_, ?_⟩
  · obtain ⟨hne, hblank⟩ := Text.isWord_of_mem_words hw
    exact ⟨mt String.toList_eq_nil_iff.2 hne, hblank⟩
  · show Except.ok (applyJoin _) = _
    rw [applyJoin_strings, Text.intercalate_words]
  · show (compilePattern "\\s+" "g" >>= fun compiled => .ok (Value.string (compiled.1.replace compiled.2 _ " "))) = _
    rw [compilePattern_blanks h]
    exact congrArg (fun text => Except.ok (Value.string text)) (h.replace_all _)
  · rw [hsplit, Text.words_squeezed_trim]

end

open Native

/-- Two words between blanks of several kinds. -/
theorem split_words_spaced :
    Regex.FindsBlanks (Regex.Program.oneOrMore .space).matcher ∧
      Builtin.split.apply [.string " a\u2003\t b\u00a0"] = .ok (.array [.string "a", .string "b"]) := by
  have hwords : Text.words " a\u2003\t b\u00a0" = ["a", "b"] := by decide +kernel
  obtain ⟨hsplit, -⟩ := split_words Regex.findsBlanks_native " a\u2003\t b\u00a0"
  rw [hwords] at hsplit
  exact ⟨Regex.findsBlanks_native, hsplit⟩

end Formula.Builtin

end Costing
