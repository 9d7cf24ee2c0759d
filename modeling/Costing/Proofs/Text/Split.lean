import Mathlib.Data.List.Basic
import Costing.Text.Search

/-!
# Text — splitting at a separator

* `breakOn?_eq_some`: an occurrence stands between what comes before and after it.
* `intercalate_splitChars`, `intercalate_splitOn`: **the pieces with the separator between them are the text.**
-/

namespace Costing.Text

variable {d s before rest : List Char}

/-- What is found stands between the characters before and after it. -/
theorem breakOn?_eq_some (h : breakOn? d s = some (before, rest)) : s = before ++ (d ++ rest) := by
  induction s generalizing before with
  | nil =>
      rw [breakOn?] at h
      split at h
      · next hempty =>
          cases h
          rw [List.isEmpty_iff.1 hempty, List.append_nil, List.append_nil]
      · cases h
  | cons c s ih =>
      rw [breakOn?] at h
      split at h
      · next rest' hprefix =>
          cases h
          exact (List.isPrefixOf?_eq_some_iff_append_eq.1 hprefix).symm
      · obtain ⟨⟨found, after⟩, hfound, hpair⟩ := Option.map_eq_some_iff.1 h
        cases hpair
        rw [List.cons_append, ← ih hfound]

theorem splitChars_ne_nil : splitChars d s ≠ [] := by
  rw [splitChars]
  split
  · exact List.cons_ne_nil _ _
  · split <;> exact List.cons_ne_nil _ _

/-- **The pieces with the separator between them** are the text, wherever it is found. -/
theorem intercalate_splitChars (d s : List Char) : d.intercalate (splitChars d s) = s := by
  induction hlength : s.length using Nat.strongRecOn generalizing s with
  | ind n ih =>
      rw [splitChars]
      split
      · exact List.intercalate_singleton
      · next before rest hfound =>
          split
          · next hless =>
              rw [List.intercalate_cons_of_ne_nil splitChars_ne_nil, ih rest.length (hlength ▸ hless) rest rfl,
                List.append_assoc]
              exact (breakOn?_eq_some hfound).symm
          · exact List.intercalate_singleton

theorem map_toList_ofList (pieces : List (List Char)) : (pieces.map String.ofList).map String.toList = pieces := by
  rw [List.map_map]
  exact List.map_id'' (fun _ => String.toList_ofList) pieces

/-- Characters with nothing between them. -/
theorem intercalate_chars (cs : List Char) : [].intercalate (cs.map fun c => [c]) = cs := by
  induction cs with
  | nil => rfl
  | cons c cs ih =>
      cases cs with
      | nil => rfl
      | cons d cs =>
          rw [List.map_cons] at ih
          rw [List.map_cons, List.map_cons, List.intercalate_cons_cons, ih]
          rfl

/-- **The pieces of a text with the separator between them** are the text; the empty separator stands between all
characters. -/
theorem intercalate_splitOn (s separator : String) : separator.intercalate (splitOn s separator) = s := by
  rw [← String.toList_inj, String.toList_intercalate, splitOn]
  split
  · next hempty =>
      have hchars : (s.toList.map String.singleton).map String.toList = s.toList.map fun c => [c] := by
        simp
      rw [String.isEmpty_iff.1 hempty, hchars]
      exact intercalate_chars s.toList
  · rw [map_toList_ofList, intercalate_splitChars]

end Costing.Text
