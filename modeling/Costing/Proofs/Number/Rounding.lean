import Costing.Proofs.Number.Packed
import Mathlib.Algebra.Order.Field.Power
import Mathlib.Algebra.Order.Field.Rat
import Mathlib.Tactic.Linarith
import Mathlib.Tactic.NormNum
import Mathlib.Tactic.Positivity
import Mathlib.Tactic.Ring

/-!
# Number — rounding

Products and quotients are the numbers nearest to the exact ones, of two as near the one with an even
significand.

* `Holds`: a significand, a round bit and a sticky bit say where a rational lies.
* `RoundsTo`: a rational is rounded to a significand and an exponent, said of the rational alone.
* `roundWithAccuracy_of_roundsTo`: a significand with enough bits, and how it compares with a rational,
  are rounded to what the rational is rounded to.
* `exists_holds_divCore`: what is rounded for a quotient, and that it has enough bits.
* `mul_of_roundsTo`, `div_of_roundsTo`: products and quotients are rounded to what the exact ones are
  rounded to.
-/

namespace Costing.Number

open Float.Model (UnpackedFloat Format totalExponent)
open Float.Model.UnpackedFloat (Accuracy ExtendedMantissa accuracyOfFraction divCore roundWithAccuracy
  shiftToTargetExponent shiftToExponent)

/-! ### Powers -/

theorem zpow_mul_pow_toNat {b : ℚ} (hb : b ≠ 0) (i : Int) : b ^ i * b ^ (-i).toNat = b ^ i.toNat := by
  rw [← zpow_natCast, ← zpow_natCast, ← zpow_add₀ hb]
  congr 1
  omega

theorem lt_of_two_zpow_lt {a b : Int} (h : (2 : ℚ) ^ a < 2 ^ b) : a < b :=
  (zpow_lt_zpow_iff_right₀ one_lt_two).1 h

theorem lt_two_zpow_of_div_lt {v : ℚ} {n : Nat} {e : Int} (h : v / 2 ^ e < 2 ^ n) :
    v < 2 ^ (n + e) := by
  rw [zpow_add₀ two_ne_zero, zpow_natCast]
  exact (div_lt_iff₀ (zpow_pos two_pos e)).1 h

theorem two_zpow_le_of_le_div {v : ℚ} {n : Nat} {e : Int} (h : 2 ^ n ≤ v / 2 ^ e) :
    2 ^ (n + e) ≤ v := by
  rw [zpow_add₀ two_ne_zero, zpow_natCast]
  exact (le_div_iff₀ (zpow_pos two_pos e)).1 h

/-! ### Residual bits -/

/-- Where a rational lies: the round bit is its half, and the sticky bit says that there is more. -/
def Holds (em : ExtendedMantissa) (w : ℚ) : Prop :=
  match em with
  | ⟨m, false, false⟩ => w = m
  | ⟨m, false, true⟩ => m < w ∧ w < m + 1 / 2
  | ⟨m, true, false⟩ => w = m + 1 / 2
  | ⟨m, true, true⟩ => m + 1 / 2 < w ∧ w < m + 1

theorem shiftRightOne_even (k : Nat) (roundBit stickyBit : Bool) :
    ExtendedMantissa.shiftRightOne ⟨2 * k, roundBit, stickyBit⟩ = ⟨k, false, roundBit || stickyBit⟩ := by
  simp [ExtendedMantissa.shiftRightOne]

theorem shiftRightOne_odd (k : Nat) (roundBit stickyBit : Bool) :
    ExtendedMantissa.shiftRightOne ⟨2 * k + 1, roundBit, stickyBit⟩ =
      ⟨k, true, roundBit || stickyBit⟩ := by
  have hhalf : (2 * k + 1) / 2 = k := by omega
  simp [ExtendedMantissa.shiftRightOne, hhalf]

theorem mantissa_ofMantissaAndAccuracy (m : Nat) (a : Accuracy) :
    (ExtendedMantissa.ofMantissaAndAccuracy m a).mantissa = m := by
  obtain _ | (_ | _ | _) := a <;> rfl

namespace Holds

variable {em : ExtendedMantissa} {w : ℚ}

theorem le (h : Holds em w) : (em.mantissa : ℚ) ≤ w := by
  obtain ⟨m, _ | _, _ | _⟩ := em <;> dsimp only [Holds] at h ⊢ <;> linarith

theorem lt (h : Holds em w) : w < em.mantissa + 1 := by
  obtain ⟨m, _ | _, _ | _⟩ := em <;> dsimp only [Holds] at h ⊢ <;> linarith

/-- The bit shifted out becomes the round bit, and the old round bit becomes sticky. -/
theorem shiftRightOne (h : Holds em w) : Holds em.shiftRightOne (w / 2) := by
  obtain ⟨m, roundBit, stickyBit⟩ := em
  obtain ⟨k, rfl | rfl⟩ : ∃ k, m = 2 * k ∨ m = 2 * k + 1 := ⟨m / 2, by omega⟩
  · rw [shiftRightOne_even]
    cases roundBit <;> cases stickyBit <;> dsimp only [Holds] at h <;> push_cast at h <;>
      first
        | (show w / 2 = k; linarith)
        | (show (k : ℚ) < w / 2 ∧ w / 2 < k + 1 / 2; constructor <;> linarith)
  · rw [shiftRightOne_odd]
    cases roundBit <;> cases stickyBit <;> dsimp only [Holds] at h <;> push_cast at h <;>
      first
        | (show w / 2 = k + 1 / 2; linarith)
        | (show (k + 1 / 2 : ℚ) < w / 2 ∧ w / 2 < k + 1; constructor <;> linarith)

theorem shiftRight (h : Holds em w) (n : Nat) : Holds (em >>> n) (w / 2 ^ n) := by
  induction n with
  | zero => rwa [pow_zero, div_one]
  | succ n ih =>
      have hstep := ih.shiftRightOne
      rw [div_div, ← pow_succ] at hstep
      exact hstep

/-- What is left in units of a higher power of two. -/
theorem shiftRight_toNat (h : Holds em w) {E t : Int} (hle : E ≤ t) :
    Holds (em >>> (t - E).toNat) (w * 2 ^ E / 2 ^ t) := by
  obtain ⟨n, rfl⟩ := Int.le.dest hle
  have hscale : w * 2 ^ E / 2 ^ (E + n) = w / 2 ^ n := by
    rw [zpow_add₀ two_ne_zero, zpow_natCast, mul_comm w, mul_div_mul_left _ _ (zpow_pos two_pos E).ne']
  rw [hscale, show (E + n - E).toNat = n by omega]
  exact h.shiftRight n

theorem lt_two_zpow (h : Holds em w) (E : Int) : w * 2 ^ E < 2 ^ totalExponent em.mantissa E := by
  have hlt : em.mantissa + 1 ≤ 2 ^ (em.mantissa.log2 + 1) := Nat.lt_log2_self
  have hlog : w < 2 ^ (em.mantissa.log2 + 1) := h.lt.trans_le (by exact_mod_cast hlt)
  have htotal : totalExponent em.mantissa E = (em.mantissa.log2 + 1 : Nat) + E := rfl
  rw [htotal, zpow_add₀ two_ne_zero, zpow_natCast]
  exact mul_lt_mul_of_pos_right hlog (zpow_pos two_pos E)

theorem two_zpow_le (h : Holds em w) (hpos : 0 < em.mantissa) (E : Int) :
    2 ^ (totalExponent em.mantissa E - 1) ≤ w * 2 ^ E := by
  have hle : 2 ^ em.mantissa.log2 ≤ em.mantissa := Nat.log2_self_le hpos.ne'
  have hlog : 2 ^ em.mantissa.log2 ≤ w := le_trans (by exact_mod_cast hle) h.le
  have htotal : totalExponent em.mantissa E - 1 = (em.mantissa.log2 : Nat) + E := by
    unfold totalExponent
    omega
  rw [htotal, zpow_add₀ two_ne_zero, zpow_natCast]
  exact mul_le_mul_of_nonneg_right hlog (zpow_pos two_pos E).le

end Holds

/-! ### The nearest natural number -/

/-- A rational is rounded to `m`: no natural number is nearer, and if another one is as near, `m` is
even. -/
structure Near (m : Nat) (w : ℚ) : Prop where
  low : m - 1 / 2 ≤ w
  high : w ≤ m + 1 / 2
  even : w = m - 1 / 2 ∨ w = m + 1 / 2 → m % 2 = 0

theorem Holds.roundedMantissa {em : ExtendedMantissa} {w : ℚ} {m : Nat} (h : Holds em w)
    (hm : Near m w) : em.roundedMantissa = m := by
  obtain ⟨hlow, hhigh, heven⟩ := hm
  have hbelow {a b : Nat} (hab : (a : ℚ) < b + 1) : a ≤ b :=
    Nat.le_of_lt_succ (by exact_mod_cast hab)
  obtain ⟨k, _ | _, _ | _⟩ := em <;> dsimp only [Holds] at h
  -- below the half, and exactly there, the significand stands
  · have h₁ : k ≤ m := hbelow (by linarith)
    have h₂ : m ≤ k := hbelow (by linarith)
    exact Nat.le_antisymm h₁ h₂
  · have h₁ : k ≤ m := hbelow (by linarith)
    have h₂ : m ≤ k := hbelow (by linarith)
    exact Nat.le_antisymm h₁ h₂
  -- at the half it becomes even
  · have h₁ : k ≤ m := hbelow (by linarith)
    have h₂ : m ≤ k + 1 := hbelow (by push_cast; linarith)
    show k + k % 2 = m
    obtain rfl | rfl : m = k ∨ m = k + 1 := by omega
    · have := heven (.inr h)
      omega
    · have := heven (.inl (by rw [h]; push_cast; linarith))
      omega
  -- above the half the next one is nearer
  · have hlt : (k : ℚ) < m := by linarith
    have h₁ : k + 1 ≤ m := by exact_mod_cast hlt
    have h₂ : m ≤ k + 1 := hbelow (by push_cast; linarith)
    exact Nat.le_antisymm h₁ h₂

/-! ### Double precision -/

/-- A rational is rounded to `m · 2 ^ e` in double precision.  Below a power of two the gap between two
numbers is half the gap above. -/
structure RoundsTo (v : ℚ) (m : Nat) (e : Int) : Prop where
  near : Near m (v / 2 ^ e)
  narrow : m = 2 ^ 52 → -1074 < e → m - 1 / 4 ≤ v / 2 ^ e

/-- A number is rounded to itself. -/
theorem roundsTo_self {m : Nat} {e : Int} : RoundsTo (m * 2 ^ e) m e := by
  have hpow : (0 : ℚ) < 2 ^ e := zpow_pos two_pos e
  have hself : (m * 2 ^ e / 2 ^ e : ℚ) = m := mul_div_cancel_right₀ _ hpow.ne'
  refine ⟨⟨?_, ?_, ?_⟩, fun _ _ => ?_⟩ <;> rw [hself]
  · linarith
  · linarith
  · rintro (h | h) <;> linarith
  · linarith

/-- What is rounded to a number is below a power of two. -/
theorem RoundsTo.lt_two_zpow {v : ℚ} {m : Nat} {e : Int} (h : RoundsTo v m e) (hm : Canonical m e) :
    v < 2 ^ (((53 : Nat) : Int) + e) := by
  have hlt : (m : ℚ) + 1 ≤ 2 ^ 53 := by exact_mod_cast hm.lt
  exact lt_two_zpow_of_div_lt (lt_of_le_of_lt h.near.high (by linarith))

/-- What is rounded to a number is not below half the least number. -/
theorem RoundsTo.two_zpow_le {v : ℚ} {m : Nat} {e : Int} (h : RoundsTo v m e) (hm : Canonical m e) :
    2 ^ (-1075 : Int) ≤ v := by
  have hone : (1 : ℚ) ≤ m := by exact_mod_cast hm.pos
  have hhalf : 1 / 2 ≤ v / 2 ^ e := le_trans (by linarith) h.near.low
  have hleast : -1075 ≤ e - 1 := by have := hm.least; omega
  calc (2 : ℚ) ^ (-1075 : Int) ≤ 2 ^ (e - 1) := zpow_le_zpow_right₀ one_le_two hleast
    _ = 1 / 2 * 2 ^ e := by rw [zpow_sub_one₀ two_ne_zero, one_div, mul_comm]
    _ ≤ v := (le_div_iff₀ (zpow_pos two_pos e)).1 hhalf

theorem targetExponent_eq (t : Int) : Format.binary64.targetExponent t = max (t - 53) (-1074) := rfl

/-- The exponent that a rational is rounded at is that of the number it is rounded to, or one less if it
is rounded up to a power of two. -/
theorem targetExponent_of_roundsTo {em : ExtendedMantissa} {w v : ℚ} {E e : Int} {m : Nat}
    (hw : Holds em w) (hv : v = w * 2 ^ E)
    (hE : E ≤ Format.binary64.targetExponent (totalExponent em.mantissa E))
    (hm : Canonical m e) (h : RoundsTo v m e) :
    Format.binary64.targetExponent (totalExponent em.mantissa E) = e ∨
      Format.binary64.targetExponent (totalExponent em.mantissa E) = e - 1 ∧
        m = 2 ^ 52 ∧ -1074 < e ∧ v / 2 ^ e < 2 ^ 52 := by
  have hleast := hm.least
  rw [targetExponent_eq] at hE ⊢
  -- powers of two around the rational bound the total exponent; a zero significand has the least
  have hlt {t : Int} (ht : 2 ^ t ≤ v) : t < totalExponent em.mantissa E :=
    lt_of_two_zpow_lt (ht.trans_lt (hv ▸ hw.lt_two_zpow E))
  have hle {t : Int} (ht : v < 2 ^ t) (hleast : -1074 < t) : totalExponent em.mantissa E ≤ t := by
    by_cases hpos : 0 < em.mantissa
    · have hlow : 2 ^ (totalExponent em.mantissa E - 1) ≤ v := hv ▸ hw.two_zpow_le hpos E
      have := lt_of_two_zpow_lt (hlow.trans_lt ht)
      omega
    · have hzero : totalExponent em.mantissa E = 1 + E := by
        rw [Nat.eq_zero_of_not_pos hpos]
        rfl
      omega
  have htop := hle (h.lt_two_zpow hm) (by omega)
  by_cases he : e = -1074
  · exact .inl (by omega)
  by_cases hhalf : 2 ^ 52 ≤ v / 2 ^ e
  · have := hlt (two_zpow_le_of_le_div hhalf)
    exact .inl (by omega)
  -- the rational is below the power of two that it is rounded to
  · rw [not_le] at hhalf
    have hm52 : m = 2 ^ 52 := by
      have hltQ : (m : ℚ) < 2 ^ 52 + 1 := by linarith [h.near.low]
      have hlt52 : m < 2 ^ 52 + 1 := by exact_mod_cast hltQ
      have := hm.normal
      omega
    have hnarrow := h.narrow hm52 (by omega)
    have hlow : (2 : ℚ) ^ 51 ≤ v / 2 ^ e := by
      rw [hm52] at hnarrow
      push_cast at hnarrow
      linarith
    have h₁ := hlt (two_zpow_le_of_le_div hlow)
    have h₂ := hle (lt_two_zpow_of_div_lt hhalf) (by omega)
    exact .inr ⟨by omega, hm52, by omega, hhalf⟩

/-- Shifting to an exponent that is not below the given one. -/
theorem shiftToTargetExponent_eq {m : Nat} {e t : Int} {a : Accuracy}
    (ht : Format.binary64.targetExponent (totalExponent m e) = t) (hle : e ≤ t) :
    shiftToTargetExponent .binary64 m e a =
      (ExtendedMantissa.ofMantissaAndAccuracy m a >>> (t - e).toNat, t) := by
  unfold shiftToTargetExponent shiftToExponent
  rw [ht]
  exact Prod.ext rfl (by dsimp only; omega)

/-- There is nothing to shift when the exponent is high enough. -/
theorem shiftToTargetExponent_of_le {m : Nat} {e : Int} {a : Accuracy}
    (hle : Format.binary64.targetExponent (totalExponent m e) ≤ e) :
    shiftToTargetExponent .binary64 m e a = (.ofMantissaAndAccuracy m a, e) := by
  unfold shiftToTargetExponent shiftToExponent
  dsimp only
  rw [Int.toNat_of_nonpos (by omega)]
  exact Prod.ext rfl (Int.add_zero e)

/-- **Rounding is correct**, given a significand with enough bits and how it compares with the
rational. -/
theorem roundWithAccuracy_of_roundsTo {s : UnpackedFloat.Sign} {a : Accuracy} {w v : ℚ} {E e : Int}
    {M m : Nat} (hw : Holds (.ofMantissaAndAccuracy M a) w) (hv : v = w * 2 ^ E)
    (hE : E ≤ Format.binary64.targetExponent (totalExponent M E)) (hm : Canonical m e)
    (h : RoundsTo v m e) : roundWithAccuracy .binary64 s M E a = .finite s m e hm.pos := by
  have hM := mantissa_ofMantissaAndAccuracy M a
  have hcases := targetExponent_of_roundsTo hw hv (by rwa [hM]) hm h
  rw [hM] at hcases
  have hshift (t : Int) (ht : E ≤ t) :
      Holds (ExtendedMantissa.ofMantissaAndAccuracy M a >>> (t - E).toNat) (v / 2 ^ t) :=
    hv ▸ hw.shiftRight_toNat ht
  unfold roundWithAccuracy
  obtain ht | ⟨ht, rfl, he, hhalf⟩ := hcases
  · have hlog : m.log2 < 53 := (Nat.log2_lt hm.pos.ne').2 hm.lt
    have hsecond : Format.binary64.targetExponent (totalExponent m e) ≤ e := by
      have htotal : totalExponent m e = m.log2 + 1 + e := rfl
      have := hm.least
      rw [targetExponent_eq]
      omega
    rw [shiftToTargetExponent_eq ht (ht ▸ hE)]
    dsimp only
    rw [(hshift e (ht ▸ hE)).roundedMantissa h.near, shiftToTargetExponent_of_le hsecond]
    exact dif_neg hm.pos.ne'
  -- rounding up carries into a new bit, and the second shift drops the zero at the end
  · have hdouble : v / 2 ^ (e - 1) = 2 * (v / 2 ^ e) := by
      rw [zpow_sub_one₀ two_ne_zero, div_mul_eq_div_div, div_inv_eq_mul, mul_comm]
    have hnarrow := h.narrow rfl he
    have hnear : Near (2 ^ 53) (v / 2 ^ (e - 1)) := by
      push_cast at hnarrow
      refine ⟨?_, ?_, fun _ => rfl⟩ <;> rw [hdouble] <;> push_cast <;> linarith
    have hsecond : Format.binary64.targetExponent (totalExponent (2 ^ 53) (e - 1)) = e := by
      rw [targetExponent_eq, totalExponent, Nat.log2_two_pow]
      omega
    rw [shiftToTargetExponent_eq ht (ht ▸ hE)]
    dsimp only
    rw [(hshift (e - 1) (ht ▸ hE)).roundedMantissa hnear, shiftToTargetExponent_eq hsecond (by omega),
      show (e - (e - 1)).toNat = 1 by omega]
    rfl

/-! ### Products and quotients -/

section Operations

variable {m₁ m₂ m : Nat} {e₁ e₂ e : Int} {h₁ : 0 < m₁} {h₂ : 0 < m₂}

/-- **Products are rounded correctly**, if the significands have enough bits. -/
theorem mul_of_roundsTo (hbits : 2 ^ 52 ≤ m₁ * m₂) (hm : Canonical m e)
    (h : RoundsTo (m₁ * 2 ^ e₁ * (m₂ * 2 ^ e₂)) m e) :
    UnpackedFloat.mul .binary64 (.finite .positive m₁ e₁ h₁) (.finite .positive m₂ e₂ h₂) =
      .finite .positive m e hm.pos := by
  have hw : Holds (.ofMantissaAndAccuracy (m₁ * m₂) .exact) ((m₁ * m₂ : Nat) : ℚ) := rfl
  have hv : (m₁ * 2 ^ e₁ * (m₂ * 2 ^ e₂) : ℚ) = ((m₁ * m₂ : Nat) : ℚ) * 2 ^ (e₁ + e₂) := by
    rw [zpow_add₀ two_ne_zero]
    push_cast
    ring
  refine roundWithAccuracy_of_roundsTo hw hv ?_ hm h
  have hlog : 52 ≤ (m₁ * m₂).log2 := (Nat.le_log2 (Nat.mul_pos h₁ h₂).ne').2 hbits
  rw [targetExponent_eq, totalExponent]
  omega

/-- A quotient of natural numbers, from how the rest compares with half the divisor. -/
theorem holds_div (a : Nat) {b : Nat} (hb : 0 < b) :
    Holds (.ofMantissaAndAccuracy (a / b) (accuracyOfFraction (a % b) b)) (a / b : ℚ) := by
  have hbQ : (0 : ℚ) < b := by exact_mod_cast hb
  have hsplit : (a / b : ℚ) = (a / b : Nat) + (a % b : Nat) / b := by
    rw [eq_comm, ← mul_right_inj' hbQ.ne', mul_add, mul_div_cancel₀ _ hbQ.ne',
      mul_div_cancel₀ _ hbQ.ne']
    exact_mod_cast Nat.div_add_mod a b
  have hrest : ((a % b : Nat) : ℚ) / b < 1 := (div_lt_one hbQ).2 (by exact_mod_cast Nat.mod_lt a hb)
  rw [hsplit]
  generalize a % b = r at hrest ⊢
  generalize a / b = q
  unfold accuracyOfFraction
  split
  · next hr =>
      show (q + (r : ℚ) / b) = q
      rw [hr, Nat.cast_zero, zero_div, add_zero]
  · next hr =>
      have hrQ : (0 : ℚ) < r := by exact_mod_cast Nat.pos_of_ne_zero hr
      have hpos : (0 : ℚ) < r / b := div_pos hrQ hbQ
      cases hcompare : compare (2 * r) b with
      | lt =>
          have hlt : (2 * r : ℚ) < b := by exact_mod_cast Nat.compare_eq_lt.1 hcompare
          have hhalf : (r : ℚ) / b < 1 / 2 := by
            rw [div_lt_iff₀ hbQ]
            linarith
          exact ⟨by linarith, by linarith⟩
      | eq =>
          have heq : (2 * r : ℚ) = b := by exact_mod_cast Nat.compare_eq_eq.1 hcompare
          show (q + (r : ℚ) / b) = q + 1 / 2
          rw [← heq, mul_comm, div_mul_cancel_left₀ hrQ.ne', one_div]
      | gt =>
          have hgt : (b : ℚ) < 2 * r := by exact_mod_cast Nat.compare_eq_gt.1 hcompare
          have hhalf : 1 / 2 < (r : ℚ) / b := by
            rw [lt_div_iff₀ hbQ]
            linarith
          exact ⟨by linarith, by linarith⟩

/-- What is rounded for a quotient: it has at least as many bits as the difference of the total exponents says. -/
theorem exists_holds_divCore (e₁ e₂ : Int) (h₁ : 0 < m₁) (h₂ : 0 < m₂) :
    ∃ M E a w, divCore .binary64 m₁ e₁ m₂ e₂ = (M, E, a) ∧ Holds (.ofMantissaAndAccuracy M a) w ∧
      (m₁ * 2 ^ e₁ / (m₂ * 2 ^ e₂) : ℚ) = w * 2 ^ E ∧
      E ≤ Format.binary64.targetExponent (totalExponent M E) := by
  let target := Format.binary64.targetExponent (totalExponent m₁ e₁ - totalExponent m₂ e₂)
  let E := min (e₁ - e₂) target
  obtain ⟨n, hn⟩ : ∃ n : Nat, e₁ - e₂ = E + n := ⟨(e₁ - e₂ - E).toNat, by omega⟩
  have hw : Holds (.ofMantissaAndAccuracy ((m₁ <<< n) / m₂) (accuracyOfFraction ((m₁ <<< n) % m₂) m₂))
      ((m₁ <<< n : Nat) / m₂ : ℚ) := holds_div _ h₂
  have hv : (m₁ * 2 ^ e₁ / (m₂ * 2 ^ e₂) : ℚ) = ((m₁ <<< n : Nat) / m₂ : ℚ) * 2 ^ E := by
    rw [mul_div_mul_comm, ← zpow_sub₀ two_ne_zero, hn, zpow_add₀ two_ne_zero, zpow_natCast,
      Nat.shiftLeft_eq]
    push_cast
    ring
  have hcore : divCore .binary64 m₁ e₁ m₂ e₂ =
      ((m₁ <<< n) / m₂, E, accuracyOfFraction ((m₁ <<< n) % m₂) m₂) := by
    show ((m₁ <<< (e₁ - e₂ - E).toNat) / m₂, E, accuracyOfFraction ((m₁ <<< (e₁ - e₂ - E).toNat) % m₂) m₂) = _
    rw [show (e₁ - e₂ - E).toNat = n by omega]
  refine ⟨_, _, _, _, hcore, hw, hv, ?_⟩
  have hlt := hw.lt_two_zpow E
  rw [← hv, mantissa_ofMantissaAndAccuracy] at hlt
  have hnumerator : (2 : ℚ) ^ (totalExponent m₁ e₁ - 1) ≤ m₁ * 2 ^ e₁ :=
    @Holds.two_zpow_le ⟨m₁, false, false⟩ m₁ rfl h₁ e₁
  have hdenominator : (m₂ * 2 ^ e₂ : ℚ) < 2 ^ totalExponent m₂ e₂ :=
    @Holds.lt_two_zpow ⟨m₂, false, false⟩ m₂ rfl e₂
  have hpos : (0 : ℚ) < m₂ * 2 ^ e₂ := mul_pos (by exact_mod_cast h₂) (zpow_pos two_pos e₂)
  have hquotient : (2 : ℚ) ^ (totalExponent m₁ e₁ - 1 - totalExponent m₂ e₂) ≤
      m₁ * 2 ^ e₁ / (m₂ * 2 ^ e₂) := by
    rw [zpow_sub₀ two_ne_zero]
    exact div_le_div₀ (hnumerator.trans' (zpow_pos two_pos _).le) hnumerator hpos hdenominator.le
  have := lt_of_two_zpow_lt (hquotient.trans_lt hlt)
  have hE : E ≤ max (totalExponent m₁ e₁ - totalExponent m₂ e₂ - 53) (-1074) := min_le_right ..
  rw [targetExponent_eq]
  exact hE.trans (max_le_max_right _ (by omega))

/-- **Quotients are rounded correctly.** -/
theorem div_of_roundsTo (hm : Canonical m e) (h : RoundsTo (m₁ * 2 ^ e₁ / (m₂ * 2 ^ e₂)) m e) :
    UnpackedFloat.div .binary64 (.finite .positive m₁ e₁ h₁) (.finite .positive m₂ e₂ h₂) =
      .finite .positive m e hm.pos := by
  obtain ⟨M, E, a, w, hcore, hw, hv, hE⟩ := exists_holds_divCore e₁ e₂ h₁ h₂
  have hround : UnpackedFloat.div .binary64 (.finite .positive m₁ e₁ h₁) (.finite .positive m₂ e₂ h₂) =
      roundWithAccuracy .binary64 .positive M E a := by
    show roundWithAccuracy .binary64 .positive (divCore .binary64 m₁ e₁ m₂ e₂).1
      (divCore .binary64 m₁ e₁ m₂ e₂).2.1 (divCore .binary64 m₁ e₁ m₂ e₂).2.2 = _
    rw [hcore]
  rw [hround]
  exact roundWithAccuracy_of_roundsTo hw hv hE hm h

end Operations

end Costing.Number
