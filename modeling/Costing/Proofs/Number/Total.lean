import Costing.Number.Total
import Costing.Proofs.Number.Line
import Costing.Proofs.Number.NotANumber

/-!
# Number — the total order with NaNs

The total order is told without ranks: numbers by their size, `-0` before `0`, and NaNs before and after all numbers.

* `Total.Precedes`: **the total order**, case by case.
* `Total.rank_lt_rank`: **it is the order of ranks.**
* `Total.eq_of_rank`: **what has one rank is the same.**
-/

namespace Costing.Number

open Float.Model (UnpackedFloat)
open Float.Model.UnpackedFloat (Sign)

/-! ### Ranks of numbers -/

section

variable {x y : Float}

/-- There is one NaN. -/
theorem eq_of_isNaN (hx : x.isNaN) (hy : y.isNaN) : x = y := by
  have hbits {z : Float} (h : z.isNaN) : z.toModel.toBits.toBitVec = UnpackedFloat.packedNaN .binary64 := by
    have hunpack := unpack_of_isNaN h
    change UnpackedFloat.unpack .binary64 z.toModel.toBits.toBitVec = _ at hunpack
    unfold UnpackedFloat.unpack at hunpack
    dsimp only at hunpack
    split at hunpack
    · next hexponent =>
        split at hunpack
        · cases hunpack
        · next hmantissa => exact z.toModel.valid.eq_packedNaN hexponent hmantissa
    · split at hunpack
      · split at hunpack <;> cases hunpack
      · cases hunpack
  exact eq_of_toBits (UInt64.toBitVec_inj.1 ((hbits hx).trans (hbits hy).symm))

theorem isNegative_iff_rank : isNegative x = true ↔ rank x < 0 := by
  unfold rank
  split
  · next h => exact iff_of_true h (by omega)
  · next h => exact iff_of_false h (by omega)

/-- Numbers stay within the infinities. -/
theorem rank_bounds (hx : x.isNaN = false) : -(2047 * 2 ^ 52 : Int) - 1 ≤ rank x ∧ rank x ≤ 2047 * 2 ^ 52 := by
  have hunpacked := isUnpacked_unpack x
  have hnumber : x.toModel.unpack.isNaN = false := hx
  rw [rank_eq_place hx]
  cases hu : x.toModel.unpack with
  | notANumber =>
      rw [hu] at hnumber
      cases hnumber
  | infinity s => cases s <;> decide
  | zero s => cases s <;> decide
  | finite s m e hm =>
      have hlt := bits_lt (hunpacked s m e hm hu)
      cases s <;> simp only [place, signedPlace] <;> omega

/-- Numbers are in the order of their ranks, and of the two zeros the one with the sign comes first. -/
theorem rank_lt_rank_iff (hx : x.isNaN = false) (hy : y.isNaN = false) :
    rank x < rank y ↔ x < y ∨ x == y ∧ isNegative x = true ∧ isNegative y = false := by
  rw [lt_iff_level hx hy, beq_iff_level hx hy, isNegative_iff_rank, ← Bool.not_eq_true, isNegative_iff_rank]
  simp only [level, merge]
  split <;> split <;> omega

end

/-! ### The order -/

namespace Total

/-- **The total order**: NaNs with a sign, those of larger fractions first, then numbers, and then NaNs without a sign. -/
inductive Precedes : Total → Total → Prop where
  | number {x y : Float} (h : x < y) : Precedes (.number x) (.number y)
  | zero {x y : Float} (h : x == y) (hx : isNegative x = true) (hy : isNegative y = false) :
      Precedes (.number x) (.number y)
  | nanNumber {n : NaN} {x : Float} (h : n.negative = true) : Precedes (.nan n) (.number x)
  | numberNan {x : Float} {n : NaN} (h : n.negative = false) : Precedes (.number x) (.nan n)
  | nanSigns {m n : NaN} (hm : m.negative = true) (hn : n.negative = false) : Precedes (.nan m) (.nan n)
  | nanBelow {m n : NaN} (hm : m.negative = true) (hn : n.negative = true) (h : n.fraction < m.fraction) :
      Precedes (.nan m) (.nan n)
  | nanAbove {m n : NaN} (hm : m.negative = false) (hn : n.negative = false) (h : m.fraction < n.fraction) :
      Precedes (.nan m) (.nan n)

/-- What is given as a number is one. -/
def Proper : Total → Prop
  | .number x => x.isNaN = false
  | .nan _ => True

theorem proper_ofFloat (n : NaN) (x : Float) : (ofFloat n x).Proper := by
  unfold ofFloat
  split
  · exact trivial
  · next h => exact Bool.eq_false_iff.2 h

theorem ofFloat_inj {m n : NaN} {x y : Float} (h : ofFloat m x = ofFloat n y) : x = y := by
  unfold ofFloat at h
  split at h <;> split at h
  · next hx hy => exact eq_of_isNaN hx hy
  · cases h
  · cases h
  · exact Total.number.inj h

theorem rank_nan_of_negative {n : NaN} (h : n.negative = true) : (nan n).rank = -(2047 * 2 ^ 52 + n.fraction : Int) - 1 := by
  rw [rank, h, if_pos rfl]
  rfl

theorem rank_nan_of_not_negative {n : NaN} (h : n.negative = false) : (nan n).rank = 2047 * 2 ^ 52 + n.fraction := by
  rw [rank, h, if_neg Bool.false_ne_true]
  rfl

section

variable {m n : NaN} {x y : Float}

/-- A NaN with a sign is below all numbers, and no other is. -/
theorem rank_nan_lt_rank_number (hx : x.isNaN = false) : (nan n).rank < (number x).rank ↔ n.negative = true := by
  have hpos := n.fraction_pos
  have hbounds : _ ≤ (number x).rank ∧ (number x).rank ≤ _ := rank_bounds hx
  cases hn : n.negative with
  | true =>
      rw [rank_nan_of_negative hn]
      exact iff_of_true (by omega) rfl
  | false =>
      rw [rank_nan_of_not_negative hn]
      exact iff_of_false (by omega) Bool.false_ne_true

/-- A NaN without a sign is above all numbers, and no other is. -/
theorem rank_number_lt_rank_nan (hx : x.isNaN = false) : (number x).rank < (nan n).rank ↔ n.negative = false := by
  have hpos := n.fraction_pos
  have hbounds : _ ≤ (number x).rank ∧ (number x).rank ≤ _ := rank_bounds hx
  cases hn : n.negative with
  | true =>
      rw [rank_nan_of_negative hn]
      exact iff_of_false (by omega) nofun
  | false =>
      rw [rank_nan_of_not_negative hn]
      exact iff_of_true (by omega) rfl

/-- NaNs are told apart by their signs and then by their fractions, the other way round below the numbers. -/
theorem rank_nan_lt_rank_nan : (nan m).rank < (nan n).rank ↔
    m.negative = true ∧ n.negative = false ∨
    m.negative = true ∧ n.negative = true ∧ n.fraction < m.fraction ∨
    m.negative = false ∧ n.negative = false ∧ m.fraction < n.fraction := by
  cases hm : m.negative <;> cases hn : n.negative <;>
    simp only [hm, hn, rank_nan_of_negative, rank_nan_of_not_negative, reduceCtorEq, true_and, false_and, and_false,
      or_false, false_or, iff_true, iff_false] <;> omega

theorem precedes_number_iff :
    (number x).Precedes (number y) ↔ x < y ∨ x == y ∧ isNegative x = true ∧ isNegative y = false := by
  constructor
  · intro h
    cases h with
    | number h => exact .inl h
    | zero h hx hy => exact .inr ⟨h, hx, hy⟩
  · rintro (h | ⟨h, hx, hy⟩)
    · exact .number h
    · exact .zero h hx hy

theorem precedes_nan_iff : (nan m).Precedes (nan n) ↔
    m.negative = true ∧ n.negative = false ∨
    m.negative = true ∧ n.negative = true ∧ n.fraction < m.fraction ∨
    m.negative = false ∧ n.negative = false ∧ m.fraction < n.fraction := by
  constructor
  · intro h
    cases h with
    | nanSigns hm hn => exact .inl ⟨hm, hn⟩
    | nanBelow hm hn h => exact .inr (.inl ⟨hm, hn, h⟩)
    | nanAbove hm hn h => exact .inr (.inr ⟨hm, hn, h⟩)
  · rintro (⟨hm, hn⟩ | ⟨hm, hn, h⟩ | ⟨hm, hn, h⟩)
    · exact .nanSigns hm hn
    · exact .nanBelow hm hn h
    · exact .nanAbove hm hn h

end

variable {a b : Total}

/-- **The total order is that of ranks.** -/
theorem rank_lt_rank (ha : a.Proper) (hb : b.Proper) : a.rank < b.rank ↔ a.Precedes b := by
  cases a with
  | number x =>
      cases b with
      | number y => exact (rank_lt_rank_iff ha hb).trans precedes_number_iff.symm
      | nan n => exact (rank_number_lt_rank_nan ha).trans ⟨.numberNan, fun | .numberNan h => h⟩
  | nan m =>
      cases b with
      | number y => exact (rank_nan_lt_rank_number hb).trans ⟨.nanNumber, fun | .nanNumber h => h⟩
      | nan n => exact rank_nan_lt_rank_nan.trans precedes_nan_iff.symm

theorem rank_number_ne_rank_nan {x : Float} (hx : x.isNaN = false) (n : NaN) : (number x).rank ≠ (nan n).rank := by
  cases hn : n.negative with
  | true => exact ((rank_nan_lt_rank_number hx).2 hn).ne'
  | false => exact ((rank_number_lt_rank_nan hx).2 hn).ne

theorem nan_of_rank {m n : NaN} (h : (nan m).rank = (nan n).rank) : m = n := by
  have hsame : m.negative = n.negative ∧ m.fraction = n.fraction := by
    cases hm : m.negative <;> cases hn : n.negative <;>
      simp only [hm, hn, rank_nan_of_negative, rank_nan_of_not_negative] at h
    · exact ⟨rfl, by omega⟩
    · omega
    · omega
    · exact ⟨rfl, by omega⟩
  cases m
  cases n
  obtain ⟨rfl, rfl⟩ := hsame
  rfl

/-- **What has one rank is the same.** -/
theorem eq_of_rank (ha : a.Proper) (hb : b.Proper) (h : a.rank = b.rank) : a = b := by
  cases a with
  | number x =>
      cases b with
      | number y => exact congrArg number (rank_injective h)
      | nan n => exact absurd h (rank_number_ne_rank_nan ha n)
  | nan m =>
      cases b with
      | number y => exact absurd h.symm (rank_number_ne_rank_nan hb m)
      | nan n => exact congrArg nan (nan_of_rank h)

end Total

end Costing.Number
