import Mathlib.Algebra.Order.Ring.Nat
import Mathlib.Data.List.Basic
import Costing.Text.Blank
import Costing.Text.Named

/-!
# Text — ranges of code points

* `lastNotAbove_eq`: halving finds the last start that is not above a number.
* `inRanges_iff`: a number is in ascending ranges if it is in one of them.
* `inRanges_space`: **the blanks that patterns name are those of texts.**
-/

namespace Costing.Text

/-! ### Halving -/

/-- Halving finds the place up to which the starts are not above a number. -/
theorem lastNotAbove_eq {start : Nat → Nat} {n fuel low high j : Nat} (hj : ∀ k < high, start k ≤ n ↔ k ≤ j)
    (hlow : low ≤ j) (hhigh : j < high) (hfuel : high ≤ low + 2 ^ fuel) : lastNotAbove start n fuel low high = j := by
  induction fuel generalizing low high with
  | zero =>
      rw [lastNotAbove]
      omega
  | succ fuel ih =>
      rw [lastNotAbove]
      split
      · omega
      · have hmiddle : (low + high) / 2 < high := by omega
        simp only [hj _ hmiddle]
        split
        · next hle => exact ih hj hle hhigh (by omega)
        · next hlt => exact ih (fun k hk => hj k (Nat.lt_trans hk hmiddle)) hlow (Nat.lt_of_not_le hlt) (by omega)

/-- Ranges that hold something, each above the one before. -/
def Ascending (ranges : List Range) : Prop :=
  (∀ range ∈ ranges, range.first ≤ range.last) ∧ ranges.Pairwise fun a b => a.last < b.first

instance (ranges : List Range) : Decidable (Ascending ranges) :=
  inferInstanceAs (Decidable (_ ∧ _))

variable {ranges : List Range} {n : Nat}

theorem Ascending.first_le_iff (h : Ascending ranges) {j k : Nat} (hj : j < ranges.length) (hk : k < ranges.length)
    (hfirst : ranges[j].first ≤ n) (hlast : n ≤ ranges[j].last) : ranges[k].first ≤ n ↔ k ≤ j := by
  have hap {i i' : Nat} (hi : i < ranges.length) (hi' : i' < ranges.length) (hlt : i < i') :
      ranges[i].last < ranges[i'].first := List.pairwise_iff_getElem.1 h.2 i i' hi hi' hlt
  have hbounds := h.1 ranges[k] (List.getElem_mem hk)
  constructor
  · intro hle
    by_contra hnot
    have := hap hj hk (Nat.lt_of_not_le hnot)
    omega
  · intro hle
    rcases Nat.eq_or_lt_of_le hle with rfl | hlt
    · exact hfirst
    · have := hap hk hj hlt
      omega

/-- **A number is in ascending ranges** if it is in one of them. -/
theorem inRanges_iff (h : Ascending ranges) (hfew : ranges.length ≤ 2 ^ 32) :
    inRanges ranges.toArray n ↔ ∃ range ∈ ranges, range.first ≤ n ∧ n ≤ range.last := by
  simp only [inRanges, List.getElem?_toArray, List.size_toArray]
  constructor
  · intro hin
    split at hin
    · next range hrange => exact ⟨range, List.mem_of_getElem? hrange, by simpa using hin⟩
    · cases hin
  · rintro ⟨range, hmem, hfirst, hlast⟩
    obtain ⟨j, hj, rfl⟩ := List.mem_iff_getElem.1 hmem
    have hplace : lastNotAbove (fun i => (ranges[i]?.map Range.first).getD 0) n 32 0 ranges.length = j := by
      refine lastNotAbove_eq (fun k hk => ?_) (Nat.zero_le j) hj (by omega)
      rw [List.getElem?_eq_getElem hk]
      exact h.first_le_iff hj hk hfirst hlast
    rw [hplace, List.getElem?_eq_getElem hj]
    simp [hfirst, hlast]

/-! ### Blanks -/

namespace CharSet

/-- The blanks that patterns name. -/
theorem ranges_space : space.ranges =
    [⟨9, 13⟩, ⟨32, 32⟩, ⟨133, 133⟩, ⟨160, 160⟩, ⟨5760, 5760⟩, ⟨8192, 8202⟩, ⟨8232, 8233⟩, ⟨8239, 8239⟩, ⟨8287, 8287⟩,
      ⟨12288, 12288⟩] := by
  -- the table is in order already, so sorting, which does not evaluate, changes nothing
  have hsorted : (readRanges Property.whiteSpace.lines).Pairwise fun a b => a.first ≤ b.first := by decide +kernel
  show (Property.listed .whiteSpace).ranges = _
  rw [Property.listed, ofTable, ofRanges, List.mergeSort_of_pairwise (by simpa using hsorted)]
  decide +kernel

end CharSet

/-- **The blanks that patterns name** are those of texts. -/
theorem inRanges_space (c : Char) : inRanges CharSet.space.toArray c.toNat = isBlank c := by
  rw [Bool.eq_iff_iff, CharSet.toArray, CharSet.ranges_space, inRanges_iff (by decide) (by decide)]
  simp only [List.exists_mem_cons_iff, isBlank, Bool.or_eq_true, Bool.and_eq_true, decide_eq_true_eq, beq_iff_eq]
  simp only [List.not_mem_nil, false_and, exists_false, or_false]
  omega

end Costing.Text
