import Costing.Proofs.Number.TotalOrder

/-!
# Number — the number line

In the total order the two zeros have places of their own.  Put together they give the order that numbers are compared
by.

* `level`: the place of a number on the number line.
* `lt_iff_level`, `le_iff_level`, `beq_iff_level`: **numbers are compared by their places on the number line.**
* `level_larger`, `larger_le_larger`: the larger of two numbers.
* `level_smaller`: the smaller of two numbers.
-/

namespace Costing.Number

open Float.Model (UnpackedFloat)
open Float.Model.UnpackedFloat (Sign)

/-- The total order with the places of the two zeros put together. -/
def merge (n : Int) : Int :=
  if n < 0 then n + 1 else n

theorem merge_signedPlace (s : Sign) (n : Nat) : merge (signedPlace s n) = s.apply n := by
  cases s with
  | positive =>
      show merge (n : Int) = n
      exact if_neg (by omega)
  | negative =>
      show merge (-(n : Int) - 1) = -n
      rw [merge, if_pos (by omega)]
      omega

/-- The place of a number on the number line. -/
def level (x : Float) : Int :=
  merge (rank x)

theorem level_eq (x : Float) : level x = (signOf x.toBits.toBitVec).apply (x.toBits.toNat % 2 ^ 63 : Nat) := by
  rw [level, rank_eq, merge_signedPlace]

theorem level_eq_merge_place {x : Float} (h : x.isNaN = false) : level x = merge (place x.toModel.unpack) := by
  rw [level, rank_eq_place h]

/-- Places with one sign are compared by their magnitudes, below zero the other way round. -/
theorem compare_apply (s : Sign) (n n' : Nat) :
    compare (s.apply n) (s.apply n') = match s with
      | .positive => compare n n'
      | .negative => (compare n n').swap := by
  cases s with
  | positive => simp only [Sign.apply, compare, compareOfLessAndEq, Int.ofNat_lt, Int.natCast_inj]
  | negative =>
      rw [Nat.compare_swap]
      simp only [Sign.apply, compare, compareOfLessAndEq, neg_lt_neg_iff, neg_inj, Int.ofNat_lt, Int.natCast_inj,
        eq_comm]

/-- Magnitudes are compared as their bits are. -/
theorem compare_bits {m m' : Nat} {e e' : Int} (hm : Canonical m e) (hm' : Canonical m' e') :
    (compare e e').then (compare m m') = compare (bits m e) (bits m' e') := by
  cases h : (compare e e').then (compare m m') with
  | lt => exact (Nat.compare_eq_lt.2 (bits_lt_bits hm hm' h)).symm
  | eq =>
      obtain ⟨he, hm⟩ := Ordering.then_eq_eq.1 h
      rw [Int.compare_eq_eq.1 he, Nat.compare_eq_eq.1 hm]
      exact (Nat.compare_eq_eq.2 rfl).symm
  | gt =>
      have hswap : (compare e' e).then (compare m' m) = .lt := by
        rw [← Int.compare_swap, ← Nat.compare_swap, ← Ordering.swap_then, h]
        rfl
      exact (Nat.compare_eq_gt.2 (bits_lt_bits hm' hm hswap)).symm

/-- **Numbers are compared by their places on the number line.** -/
theorem compare_eq {u v : UnpackedFloat} (hu : IsUnpacked u) (hv : IsUnpacked v) (hunan : u.isNaN = false)
    (hvnan : v.isNaN = false) : u.compare v = some (compare (merge (place u)) (merge (place v))) := by
  cases u with
  | notANumber => cases hunan
  | infinity s =>
      cases v with
      | notANumber => cases hvnan
      | infinity s' | zero s' => cases s <;> cases s' <;> rfl
      | finite s' m e hm =>
          have hlt := bits_lt (hv s' m e hm rfl)
          simp only [place, merge_signedPlace]
          cases s with
          | positive =>
              refine congrArg some (Int.compare_eq_gt.2 ?_).symm
              cases s' <;> simp only [Sign.apply] <;> omega
          | negative =>
              refine congrArg some (Int.compare_eq_lt.2 ?_).symm
              cases s' <;> simp only [Sign.apply] <;> omega
  | zero s =>
      cases v with
      | notANumber => cases hvnan
      | infinity s' | zero s' => cases s <;> cases s' <;> rfl
      | finite s' m e hm =>
          have hpos := bits_pos (hv s' m e hm rfl)
          simp only [place, merge_signedPlace]
          cases s' with
          | positive =>
              refine congrArg some (Int.compare_eq_lt.2 ?_).symm
              cases s <;> simp only [Sign.apply] <;> omega
          | negative =>
              refine congrArg some (Int.compare_eq_gt.2 ?_).symm
              cases s <;> simp only [Sign.apply] <;> omega
  | finite s m e hm =>
      have hlt := bits_lt (hu s m e hm rfl)
      have hpos := bits_pos (hu s m e hm rfl)
      cases v with
      | notANumber => cases hvnan
      | infinity s' | zero s' =>
          simp only [place, merge_signedPlace]
          cases s <;> cases s' <;> simp only [Sign.apply] <;>
            first
              | exact congrArg some (Int.compare_eq_lt.2 (by omega)).symm
              | exact congrArg some (Int.compare_eq_gt.2 (by omega)).symm
      | finite s' m' e' hm' =>
          have hpos' := bits_pos (hv s' m' e' hm' rfl)
          have hbits := compare_bits (hu s m e hm rfl) (hv s' m' e' hm' rfl)
          simp only [place, merge_signedPlace]
          cases s <;> cases s'
          case positive.positive => exact congrArg some (hbits.trans (compare_apply .positive _ _).symm)
          case positive.negative =>
            exact congrArg some (Int.compare_eq_gt.2 (by simp only [Sign.apply]; omega)).symm
          case negative.positive =>
            exact congrArg some (Int.compare_eq_lt.2 (by simp only [Sign.apply]; omega)).symm
          case negative.negative =>
            exact congrArg some ((congrArg Ordering.swap hbits).trans (compare_apply .negative _ _).symm)

/-! ### Comparing numbers -/

section

variable {x y : Float}

theorem compare_unpack (hx : x.isNaN = false) (hy : y.isNaN = false) :
    x.toModel.unpack.compare y.toModel.unpack = some (compare (level x) (level y)) := by
  rw [level_eq_merge_place hx, level_eq_merge_place hy]
  exact compare_eq (isUnpacked_unpack x) (isUnpacked_unpack y) hx hy

theorem lt_iff_level (hx : x.isNaN = false) (hy : y.isNaN = false) : x < y ↔ level x < level y := by
  rw [← Int.compare_eq_lt]
  constructor
  · intro h
    exact Option.some.inj ((compare_unpack hx hy).symm.trans (compare_of_lt h))
  · intro h
    have hcompare := compare_unpack hx hy
    rw [h] at hcompare
    exact decide_eq_true (beq_iff_eq.2 hcompare)

theorem any_isLE_of_le (h : x ≤ y) : (x.toModel.unpack.compare y.toModel.unpack).any Ordering.isLE :=
  of_decide_eq_true h

theorem not_isNaN_of_le (h : x ≤ y) : x.isNaN = false ∧ y.isNaN = false := by
  cases hcompare : x.toModel.unpack.compare y.toModel.unpack with
  | none => exact absurd (hcompare ▸ any_isLE_of_le h) nofun
  | some o => exact not_isNaN_of_compare hcompare

theorem le_iff_level (hx : x.isNaN = false) (hy : y.isNaN = false) : x ≤ y ↔ level x ≤ level y := by
  have hany : x ≤ y ↔ (x.toModel.unpack.compare y.toModel.unpack).any Ordering.isLE :=
    ⟨any_isLE_of_le, decide_eq_true⟩
  rw [hany, compare_unpack hx hy, Option.any_some, Int.isLE_compare]

theorem beq_iff_level (hx : x.isNaN = false) (hy : y.isNaN = false) : x == y ↔ level x = level y := by
  have hbeq : x == y ↔ x.toModel.unpack.compare y.toModel.unpack = some .eq := by
    show (x.toModel.unpack.compare y.toModel.unpack == some .eq) = true ↔ _
    exact beq_iff_eq
  rw [hbeq, compare_unpack hx hy, Option.some.injEq, Int.compare_eq_eq]

theorem le_refl (hx : x.isNaN = false) : x ≤ x :=
  (le_iff_level hx hx).2 le_rfl

theorem beq_of_le_of_le (hxy : x ≤ y) (hyx : y ≤ x) : x == y := by
  obtain ⟨hx, hy⟩ := not_isNaN_of_le hxy
  rw [le_iff_level hx hy] at hxy
  rw [le_iff_level hy hx] at hyx
  rw [beq_iff_level hx hy]
  exact le_antisymm hxy hyx

theorem le_trans {z : Float} (hxy : x ≤ y) (hyz : y ≤ z) : x ≤ z := by
  obtain ⟨hx, hy⟩ := not_isNaN_of_le hxy
  obtain ⟨-, hz⟩ := not_isNaN_of_le hyz
  rw [le_iff_level hx hy] at hxy
  rw [le_iff_level hy hz] at hyz
  rw [le_iff_level hx hz]
  exact hxy.trans hyz

theorem le_of_not_lt (hx : x.isNaN = false) (hy : y.isNaN = false) (h : ¬ y < x) : x ≤ y := by
  rw [lt_iff_level hy hx] at h
  rw [le_iff_level hx hy]
  exact not_lt.1 h

/-! ### The larger number -/

theorem level_larger (hx : x.isNaN = false) (hy : y.isNaN = false) : level (larger x y) = max (level x) (level y) := by
  have hlt := lt_iff_level hx hy
  rw [larger, if_neg (Bool.eq_false_iff.1 hx)]
  split
  · next h => rw [max_eq_right (hlt.1 h).le]
  · next h => rw [max_eq_left (not_lt.1 (mt hlt.2 h))]

theorem larger_eq_or (x y : Float) : larger x y = x ∨ larger x y = y := by
  unfold larger
  split
  · exact .inr rfl
  · split
    · exact .inr rfl
    · exact .inl rfl

theorem not_isNaN_larger (hx : x.isNaN = false) (hy : y.isNaN = false) : (larger x y).isNaN = false := by
  rcases larger_eq_or x y with h | h <;> rwa [h]

/-- **The larger of two numbers** grows with either. -/
theorem larger_le_larger {z : Float} (hx : x.isNaN = false) (hy : y.isNaN = false) (hz : z.isNaN = false) (h : x ≤ y) :
    larger x z ≤ larger y z := by
  rw [le_iff_level (not_isNaN_larger hx hz) (not_isNaN_larger hy hz), level_larger hx hz, level_larger hy hz]
  exact max_le_max_right _ ((le_iff_level hx hy).1 h)

/-! ### The smaller number -/

theorem level_smaller (hx : x.isNaN = false) (hy : y.isNaN = false) :
    level (smaller x y) = min (level x) (level y) := by
  have hlt := lt_iff_level hy hx
  rw [smaller, if_neg (Bool.eq_false_iff.1 hx)]
  split
  · next h => rw [min_eq_right (hlt.1 h).le]
  · next h => rw [min_eq_left (not_lt.1 (mt hlt.2 h))]

theorem smaller_eq_or (x y : Float) : smaller x y = x ∨ smaller x y = y := by
  unfold smaller
  split
  · exact .inr rfl
  · split
    · exact .inr rfl
    · exact .inl rfl

theorem not_isNaN_smaller (hx : x.isNaN = false) (hy : y.isNaN = false) : (smaller x y).isNaN = false := by
  rcases smaller_eq_or x y with h | h <;> rwa [h]

end

end Costing.Number
