import Costing.Number.Shortest
import Costing.Proofs.Number.Rounding
import Mathlib.Tactic.FieldSimp

/-!
# Number — shortest decimals

The shortest decimal of a number is rounded to the number.

* `compareScaled_eq_gt`, `compareScaled_eq_lt`, `compareScaled_eq_eq`: decimals and magnitudes are
  compared as rationals.
* `roundsTo_of_readsBack`: decimals that read back are rounded to the number.
* `roundsTo_shortest`: the search finds such a decimal.
-/

namespace Costing.Number

/-- The rational that a decimal stands for. -/
def Decimal.value (d : Decimal) : ℚ :=
  d.digits * 10 ^ d.exponent

/-! ### Comparing -/

/-- What is compared are the two numbers, at one scale. -/
theorem exists_scale (a : Nat) (i : Int) (n : Nat) (j : Int) : ∃ c : ℚ, 0 < c ∧
    (((a * Nat.pow 10 i.toNat) <<< (-j).toNat : Nat) : ℚ) = a * 10 ^ i * c ∧
    (((n * Nat.pow 10 (-i).toNat) <<< j.toNat : Nat) : ℚ) = n * 2 ^ j * c := by
  refine ⟨10 ^ (-i).toNat * 2 ^ (-j).toNat, by positivity, ?_, ?_⟩
  · rw [Nat.shiftLeft_eq, Nat.pow_eq]
    push_cast
    rw [← zpow_mul_pow_toNat (by norm_num : (10 : ℚ) ≠ 0) i]
    ring
  · rw [Nat.shiftLeft_eq, Nat.pow_eq]
    push_cast
    rw [← zpow_mul_pow_toNat (two_ne_zero : (2 : ℚ) ≠ 0) j]
    ring

theorem compareScaled_eq_gt {a n : Nat} {i j : Int} :
    compareScaled a i n j = .gt ↔ (n * 2 ^ j : ℚ) < a * 10 ^ i := by
  obtain ⟨c, hc, ha, hn⟩ := exists_scale a i n j
  rw [compareScaled, Nat.compare_eq_gt, ← @Nat.cast_lt ℚ, ha, hn]
  exact mul_lt_mul_iff_left₀ hc

theorem compareScaled_eq_lt {a n : Nat} {i j : Int} :
    compareScaled a i n j = .lt ↔ (a * 10 ^ i : ℚ) < n * 2 ^ j := by
  obtain ⟨c, hc, ha, hn⟩ := exists_scale a i n j
  rw [compareScaled, Nat.compare_eq_lt, ← @Nat.cast_lt ℚ, ha, hn]
  exact mul_lt_mul_iff_left₀ hc

theorem compareScaled_eq_eq {a n : Nat} {i j : Int} :
    compareScaled a i n j = .eq ↔ (a * 10 ^ i : ℚ) = n * 2 ^ j := by
  obtain ⟨c, hc, ha, hn⟩ := exists_scale a i n j
  rw [compareScaled, Nat.compare_eq_eq, ← @Nat.cast_inj ℚ, ha, hn]
  exact mul_left_inj' hc.ne'

/-! ### Reading back -/

/-- Half the gap below a number, which is half as wide under a power of two. -/
def gapBelow (narrow : Bool) : ℚ :=
  if narrow then 1 / 4 else 1 / 2

/-- The ends of the reals that round to a number. -/
theorem bounds_of_readsBack {m : Nat} {e : Int} {narrow : Bool} {d : Decimal} (hpos : 0 < m)
    (h : Dyadic.readsBack ⟨m, e, narrow⟩ d) :
    (m - gapBelow narrow < d.value / 2 ^ e ∨ m % 2 = 0 ∧ d.value / 2 ^ e = m - gapBelow narrow) ∧
      (d.value / 2 ^ e < m + 1 / 2 ∨ m % 2 = 0 ∧ d.value / 2 ^ e = m + 1 / 2) := by
  have hpow : (0 : ℚ) < 2 ^ e := zpow_pos two_pos e
  -- the ends are given in quarters of the gap
  have hquarter (n : Nat) : (n * 2 ^ (e - 2) : ℚ) = n / 4 * 2 ^ e := by
    rw [zpow_sub₀ two_ne_zero]
    norm_num
    ring
  have hscale : (d.digits * 10 ^ d.exponent : ℚ) = d.value / 2 ^ e * 2 ^ e :=
    (div_mul_cancel₀ d.value hpow.ne').symm
  have hlow : (((if narrow then 4 * m - 1 else 4 * m - 2 : Nat) : ℚ) / 4) = m - gapBelow narrow := by
    cases narrow <;> simp only [gapBelow, if_true, Bool.false_eq_true, if_false] <;>
      rw [Nat.cast_sub (by omega)] <;> push_cast <;> linarith
  have hhigh : ((4 * m + 2 : Nat) : ℚ) / 4 = m + 1 / 2 := by
    push_cast
    linarith
  unfold Dyadic.readsBack at h
  simp only [Bool.and_eq_true, Bool.or_eq_true, beq_iff_eq, compareScaled_eq_gt,
    compareScaled_eq_lt, compareScaled_eq_eq, hquarter, hscale, mul_lt_mul_iff_left₀ hpow,
    mul_left_inj' hpow.ne', hlow, hhigh] at h
  exact h

/-- **A decimal that reads back is rounded to the number.** -/
theorem roundsTo_of_readsBack {m : Nat} {e : Int} (hpos : 0 < m) {d : Decimal}
    (h : Dyadic.readsBack ⟨m, e, decide (m = 2 ^ 52 ∧ -1074 < e)⟩ d) : RoundsTo d.value m e := by
  obtain ⟨hlow, hhigh⟩ := bounds_of_readsBack hpos h
  have hbottom : m - gapBelow (decide (m = 2 ^ 52 ∧ -1074 < e)) ≤ d.value / 2 ^ e := by
    obtain h | ⟨-, h⟩ := hlow <;> linarith
  have htop : d.value / 2 ^ e ≤ m + 1 / 2 := by
    obtain h | ⟨-, h⟩ := hhigh <;> linarith
  have htie : d.value / 2 ^ e = m + 1 / 2 → m % 2 = 0 := by
    intro heq
    obtain h | ⟨heven, -⟩ := hhigh
    · linarith
    · exact heven
  by_cases hnarrow : m = 2 ^ 52 ∧ -1074 < e
  · have hgap : gapBelow (decide (m = 2 ^ 52 ∧ -1074 < e)) = 1 / 4 := if_pos (decide_eq_true hnarrow)
    rw [hgap] at hbottom
    refine ⟨⟨by linarith, htop, ?_⟩, fun _ _ => hbottom⟩
    rintro (h | h)
    · linarith
    · exact htie h
  · have hgap : gapBelow (decide (m = 2 ^ 52 ∧ -1074 < e)) = 1 / 2 := by
      rw [gapBelow, if_neg (by rwa [decide_eq_true_iff])]
    rw [hgap] at hbottom hlow
    refine ⟨⟨hbottom, htop, ?_⟩, fun h52 he => absurd ⟨h52, he⟩ hnarrow⟩
    rintro (h | h)
    · obtain hlt | ⟨heven, -⟩ := hlow
      · linarith
      · exact heven
    · exact htie h

/-! ### The search -/

theorem value_exact {m : Nat} {e : Int} {narrow : Bool} :
    (Dyadic.exact ⟨m, e, narrow⟩).value = m * 2 ^ e := by
  unfold Dyadic.exact
  dsimp only
  split
  · next he =>
      obtain ⟨n, rfl⟩ := Int.eq_ofNat_of_zero_le he
      simp [Decimal.value, Nat.shiftLeft_eq]
  · next he =>
      obtain ⟨n, rfl⟩ : ∃ n : Nat, e = -n := ⟨(-e).toNat, by omega⟩
      simp only [Decimal.value, neg_neg, Int.toNat_natCast, zpow_neg, zpow_natCast, Nat.pow_eq]
      push_cast
      rw [show (10 : ℚ) = 5 * 2 by norm_num, mul_pow, mul_inv]
      field_simp

theorem value_strip (fuel : Nat) (d : Decimal) : (d.strip fuel).value = d.value := by
  induction fuel generalizing d with
  | zero => rfl
  | succ fuel ih =>
      rw [Decimal.strip]
      split
      · next h =>
          simp only [Bool.and_eq_true, beq_iff_eq] at h
          have hten : d.digits = d.digits / 10 * 10 := by omega
          have htenQ : (d.digits : ℚ) = (d.digits / 10 : Nat) * 10 := by exact_mod_cast hten
          rw [ih, Decimal.value, Decimal.value, zpow_add_one₀ (by norm_num), htenQ]
          ring
      · rfl

theorem readsBack_of_onGrid? {x : Dyadic} {tie : Tie} {k : Int} {d : Decimal}
    (h : x.onGrid? tie k = some d) : x.readsBack d := by
  unfold Dyadic.onGrid? at h
  dsimp only at h
  split at h
  · cases h
  · next hlow _ => cases h; exact hlow
  · next _ hhigh => cases h; exact hhigh
  · next hlow hhigh =>
      split at h
      · cases h; exact hlow
      · cases h; exact hhigh
      · split at h
        · cases h; exact hhigh
        · cases h
          split
          · exact hlow
          · exact hhigh

/-- **The shortest decimal of a number is rounded to it.** -/
theorem roundsTo_shortest {m : Nat} {e : Int} (hpos : 0 < m) (tie : Tie) :
    RoundsTo ((Dyadic.mk m e (decide (m = 2 ^ 52 ∧ -1074 < e))).shortest tie).value m e := by
  unfold Dyadic.shortest
  dsimp only
  rw [if_neg (by rw [beq_iff_eq]; exact hpos.ne'), value_strip]
  cases hfound : (List.range 17).findSome? _ with
  | none =>
      rw [Option.getD_none, value_exact]
      exact roundsTo_self
  | some d =>
      obtain ⟨n, -, hgrid⟩ := List.exists_of_findSome?_eq_some hfound
      exact roundsTo_of_readsBack hpos (readsBack_of_onGrid? hgrid)

end Costing.Number
