import Mathlib.Data.List.DropRight
import Costing.Text.Blank

/-!
# Text — blanks around a text

* `Text.trimChars_eq_self_iff`: trimming leaves what has no blank at either end as it is.
* `Text.trim_trim`: trimming twice is trimming once.
* `Text.exists_eq_trimChars`: trimming takes off nothing but blanks.
-/

namespace Costing.Text

/-- What is left starts with nothing that was dropped. -/
theorem ends_dropWhile {p : Char → Bool} {cs : List Char} {d : Char} (h : d ∈ (cs.dropWhile p).head?) :
    p d = false := by
  have hnot := List.head?_dropWhile_not p cs
  rw [Option.mem_def.1 h] at hnot
  simpa using hnot

theorem trimChars_eq_rdropWhile (cs : List Char) : trimChars cs = (cs.dropWhile isBlank).rdropWhile isBlank :=
  rfl

/-- A text is as it is trimmed if no blank is at either end. -/
theorem trimChars_eq_self_iff {cs : List Char} : trimChars cs = cs ↔
    (∀ c ∈ cs.head?, isBlank c = false) ∧ ∀ c ∈ cs.getLast?, isBlank c = false := by
  have hfront : cs.dropWhile isBlank = cs ↔ ∀ c ∈ cs.head?, isBlank c = false := by
    cases cs with
    | nil => simp
    | cons c cs => simp [List.dropWhile_eq_self_iff]
  have hback : cs.rdropWhile isBlank = cs ↔ ∀ c ∈ cs.getLast?, isBlank c = false := by
    rw [List.rdropWhile_eq_self_iff]
    cases cs with
    | nil => simp
    | cons c cs => simp [List.getLast?_eq_some_getLast]
  rw [trimChars_eq_rdropWhile, ← hfront, ← hback]
  constructor
  · intro h
    -- What is taken off in front would be missing, as nothing is added at the end.
    have hdrop : cs.dropWhile isBlank = cs := by
      refine (List.dropWhile_suffix isBlank).eq_of_length_le ?_
      have hlength := (List.rdropWhile_prefix isBlank (cs.dropWhile isBlank)).length_le
      rwa [h] at hlength
    exact ⟨hdrop, by rwa [hdrop] at h⟩
  · rintro ⟨hdrop, hrdrop⟩
    rw [hdrop, hrdrop]

theorem toList_trim (s : String) : (trim s).toList = trimChars s.toList :=
  String.toList_ofList

theorem trim_eq_self_iff {s : String} : trim s = s ↔ trimChars s.toList = s.toList := by
  rw [← String.toList_inj, toList_trim]

theorem trimChars_trimChars (cs : List Char) : trimChars (trimChars cs) = trimChars cs := by
  have hfront : (trimChars cs).dropWhile isBlank = trimChars cs := by
    cases hkept : trimChars cs with
    | nil => rfl
    | cons c rest =>
        -- what is left starts where the text without the blanks in front starts
        obtain ⟨after, hafter⟩ := List.rdropWhile_prefix isBlank (cs.dropWhile isBlank)
        rw [← trimChars_eq_rdropWhile, hkept, List.cons_append] at hafter
        have hhead := List.head?_dropWhile_not isBlank cs
        rw [← hafter] at hhead
        exact List.dropWhile_cons_of_neg (Bool.eq_false_iff.1 hhead)
  rw [trimChars_eq_rdropWhile (trimChars cs), hfront, trimChars_eq_rdropWhile, List.rdropWhile_idempotent]

theorem trim_trim (s : String) : trim (trim s) = trim s := by
  rw [trim_eq_self_iff, toList_trim, trimChars_trimChars]

theorem exists_eq_trimChars (cs : List Char) : ∃ before after, cs = before ++ (trimChars cs ++ after) ∧
    (∀ c ∈ before, isBlank c) ∧ ∀ c ∈ after, isBlank c := by
  refine ⟨cs.takeWhile isBlank, ((dropBlank cs).reverse.takeWhile isBlank).reverse, ?_, ?_, ?_⟩
  · have hsplit : (dropBlank cs).reverse.takeWhile isBlank ++ dropBlank (dropBlank cs).reverse =
        (dropBlank cs).reverse := List.takeWhile_append_dropWhile
    have hend : trimChars cs ++ ((dropBlank cs).reverse.takeWhile isBlank).reverse = dropBlank cs := by
      rw [trimChars, ← List.reverse_append, hsplit, List.reverse_reverse]
    rw [hend, dropBlank, List.takeWhile_append_dropWhile]
  · exact fun c hc => List.mem_takeWhile_imp hc
  · exact fun c hc => List.mem_takeWhile_imp (List.mem_reverse.1 hc)

end Costing.Text
