import Costing.Proofs.Number.Scientific

/-!
# Number — the range of results

Whether a result is finite can be said of the exact result: it must be in range, nearer to zero than the middle between
the largest number and the power of two above it.

* `toRat`: the rational that a finite number stands for.
* `isFinite_of_pack`: what is packed is finite if its exponent fits.
* `fits_roundWithAccuracy`: **rounding overflows exactly out of range**.
* `isFinite_add`, `isFinite_mul`, `isFinite_div`: so a sum, a product or a quotient is finite if its operands are and
  the exact result is in range.
* `isFinite_ofNat`, `isFinite_one_add_div_hundred`: what is always in range.
-/

namespace Costing.Number

open Float.Model (UnpackedFloat Format totalExponent)
open Float.Model.UnpackedFloat (Accuracy ExtendedMantissa Sign decreaseExponent divCore roundWithAccuracy
  shiftToTargetExponent unpackExponent unpackMantissa)

/-- The rational that an unpacked number stands for; what is not finite counts as zero. -/
def ratOf : UnpackedFloat → ℚ
  | .finite s m e _ => (s.apply m : Int) * 2 ^ e
  | .infinity _ | .notANumber | .zero _ => 0

/-- The rational that a finite number stands for. -/
def toRat (x : Float) : ℚ :=
  ratOf x.toModel.unpack

/-- A rational that is rounded to a finite number. -/
def InRange (v : ℚ) : Prop :=
  |v| < 2 ^ 1024 - 2 ^ 970

/-! ### Finite numbers -/

/-- Whether an unpacked number is packed to a finite one. -/
def Fits : UnpackedFloat → Prop
  | .finite _ _ e _ => e ≤ 971
  | .zero _ => True
  | .infinity _ | .notANumber => False

theorem isFinite_unpack (b : BitVec 64) :
    (UnpackedFloat.unpack .binary64 b).isFinite = true ↔ @unpackExponent .binary64 b ≠ -1#_ := by
  unfold UnpackedFloat.unpack
  dsimp only
  split
  · next hones =>
      refine iff_of_false ?_ (not_not_intro hones)
      split <;> exact Bool.false_ne_true
  · next hones =>
      refine iff_of_true ?_ hones
      split
      · split <;> rfl
      · rfl

theorem unpackExponent_pack (u : UnpackedFloat) :
    @unpackExponent .binary64 (UnpackedFloat.pack .binary64 u) ≠ -1#_ ↔ Fits u := by
  cases u with
  | infinity s =>
      rw [UnpackedFloat.pack, UnpackedFloat.packedInfinity, UnpackedFloat.unpackExponent_packComponents]
      exact iff_of_false (not_not_intro rfl) id
  | notANumber =>
      rw [UnpackedFloat.pack, UnpackedFloat.packedNaN, UnpackedFloat.unpackExponent_packComponents]
      exact iff_of_false (not_not_intro rfl) id
  | zero s =>
      rw [UnpackedFloat.pack, UnpackedFloat.packedZero, UnpackedFloat.unpackExponent_packComponents]
      exact iff_of_true (by decide) trivial
  | finite s m e hm =>
      rw [UnpackedFloat.pack]
      dsimp only
      rw [toNat_biased]
      split
      · next hlarge =>
          rw [UnpackedFloat.packedInfinity, UnpackedFloat.unpackExponent_packComponents]
          refine iff_of_false (not_not_intro rfl) fun h => ?_
          have he : e ≤ 971 := h
          omega
      · next hsmall =>
          have he : Fits (.finite s m e hm) := by
            show e ≤ 971
            omega
          refine iff_of_true ?_ he
          split
          · rw [UnpackedFloat.unpackExponent_packComponents]
            intro hones
            have hfield := congrArg BitVec.toNat hones
            rw [BitVec.toNat_ofNat] at hfield
            have : (e + 1075).toNat % 2 ^ 11 = 2047 := hfield
            omega
          · rw [UnpackedFloat.unpackExponent_packComponents]
            decide

theorem isFinite_of_pack {x : Float} {u : UnpackedFloat} (hx : x.toModel = .pack u) : x.isFinite = true ↔ Fits u := by
  show x.toModel.unpack.isFinite = true ↔ Fits u
  rw [hx]
  exact (isFinite_unpack _).trans (unpackExponent_pack u)

/-- The significand and the exponent that bits unpack to. -/
theorem canonical_of_unpack {b : BitVec 64} {s : Sign} {m : Nat} {e : Int} {hm : 0 < m}
    (h : UnpackedFloat.unpack .binary64 b = .finite s m e hm) : Canonical m e := by
  have hexponent := toNat_unpackExponent b
  have hmantissa := toNat_unpackMantissa b
  unfold UnpackedFloat.unpack at h
  dsimp only at h
  split at h
  · split at h <;> cases h
  · next hones =>
      have hless : (@unpackExponent .binary64 b).toNat ≠ 2047 := fun h => hones (BitVec.eq_of_toNat_eq h)
      split at h
      -- without a leading bit the exponent is the least
      · next hzero =>
          split at h
          · cases h
          · rw [hzero] at h
            cases h
            exact ⟨hm, by omega, by decide, by decide, .inr (by decide)⟩
      · next hnormal =>
          have hmore : (@unpackExponent .binary64 b).toNat ≠ 0 := fun h => hnormal (BitVec.eq_of_toNat_eq h)
          cases h
          show Canonical _ ((@unpackExponent .binary64 b).toNat - 1075)
          rw [toNat_leading]
          exact ⟨by omega, by omega, by omega, by omega, .inl (by omega)⟩

/-! ### The range -/

/-- Half a gap above the largest number, in gaps. -/
theorem overflow_eq : (2 ^ 1024 - 2 ^ 970 : ℚ) = (2 ^ 53 - 1 / 2) * 2 ^ (971 : Int) := by
  have htop : (2 : ℚ) ^ 1024 = 2 ^ 53 * 2 ^ 971 := pow_add 2 53 971
  have hhalf : (2 : ℚ) ^ 971 = 2 ^ 970 * 2 := pow_succ 2 970
  rw [htop, show (2 : ℚ) ^ (971 : Int) = 2 ^ 971 from zpow_natCast 2 971, hhalf]
  generalize (2 : ℚ) ^ 970 = half
  ring

theorem inRange_of_le {v : ℚ} (h : |v| ≤ (2 ^ 53 - 1) * 2 ^ (971 : Int)) : InRange v := by
  rw [InRange, overflow_eq]
  exact h.trans_lt (mul_lt_mul_of_pos_right (by norm_num) (zpow_pos two_pos _))

theorem inRange_zero : InRange 0 := by
  refine inRange_of_le ?_
  rw [abs_zero]
  exact mul_nonneg (by norm_num) (zpow_pos two_pos _).le

theorem abs_apply (s : Sign) (n : Nat) : |((s.apply n : Int) : ℚ)| = n := by
  cases s with
  | negative =>
      show |((-(n : Int) : Int) : ℚ)| = n
      rw [Int.cast_neg, abs_neg, Int.cast_natCast, Nat.abs_cast]
  | positive =>
      show |((n : Int) : ℚ)| = n
      rw [Int.cast_natCast, Nat.abs_cast]

theorem abs_ratOf_finite {s : Sign} {m : Nat} {e : Int} {hm : 0 < m} : |ratOf (.finite s m e hm)| = m * 2 ^ e := by
  rw [ratOf, abs_mul, abs_apply, abs_of_pos (zpow_pos two_pos e)]

theorem inRange_apply (s : Sign) (m : Nat) (e : Int) :
    InRange ((s.apply m : Int) * 2 ^ e) ↔ (m * 2 ^ e : ℚ) < 2 ^ 1024 - 2 ^ 970 := by
  rw [InRange, abs_mul, abs_apply, abs_of_pos (zpow_pos two_pos e)]

/-- The significands and exponents of an unpacked number are those of a packed one. -/
def IsUnpacked (u : UnpackedFloat) : Prop :=
  ∀ s m e hm, u = .finite s m e hm → Canonical m e

theorem isUnpacked_unpack (x : Float) : IsUnpacked x.toModel.unpack :=
  fun _ _ _ _ h => canonical_of_unpack h

namespace IsUnpacked

variable {u : UnpackedFloat}

/-- The largest magnitude. -/
theorem abs_ratOf_le (hu : IsUnpacked u) : |ratOf u| ≤ (2 ^ 53 - 1) * 2 ^ (971 : Int) := by
  cases u with
  | finite s m e hm =>
      have hc := hu s m e hm rfl
      have hlt : (m : ℚ) + 1 ≤ 2 ^ 53 := by exact_mod_cast hc.lt
      have hpow : (2 : ℚ) ^ e ≤ 2 ^ (971 : Int) := zpow_le_zpow_right₀ one_le_two hc.greatest
      rw [abs_ratOf_finite]
      exact mul_le_mul (by linarith) hpow (zpow_pos two_pos e).le (by norm_num)
  | infinity | notANumber | zero =>
      rw [ratOf, abs_zero]
      exact mul_nonneg (by norm_num) (zpow_pos two_pos _).le

theorem inRange (hu : IsUnpacked u) : InRange (ratOf u) :=
  inRange_of_le hu.abs_ratOf_le

theorem fits (hu : IsUnpacked u) : Fits u ↔ u.isFinite = true := by
  cases u with
  | finite s m e hm => exact iff_of_true (hu s m e hm rfl).greatest rfl
  | zero => exact iff_of_true trivial rfl
  | infinity | notANumber => exact iff_of_false id Bool.false_ne_true

end IsUnpacked

/-! ### Rounding -/

/-- Rounding moves a rational by half at most. -/
theorem Holds.roundedMantissa_bounds {em : ExtendedMantissa} {w : ℚ} (h : Holds em w) :
    w - 1 / 2 ≤ em.roundedMantissa ∧ (em.roundedMantissa : ℚ) ≤ w + 1 / 2 := by
  obtain ⟨m, _ | _, _ | _⟩ := em <;> dsimp only [Holds] at h
  · show w - 1 / 2 ≤ m ∧ (m : ℚ) ≤ w + 1 / 2
    constructor <;> linarith
  · show w - 1 / 2 ≤ m ∧ (m : ℚ) ≤ w + 1 / 2
    constructor <;> linarith
  · show w - 1 / 2 ≤ ((m + m % 2 : Nat) : ℚ) ∧ ((m + m % 2 : Nat) : ℚ) ≤ w + 1 / 2
    have hone : ((m % 2 : Nat) : ℚ) ≤ 1 := by exact_mod_cast Nat.le_of_lt_succ (Nat.mod_lt m two_pos)
    have hnonneg : (0 : ℚ) ≤ ((m % 2 : Nat) : ℚ) := Nat.cast_nonneg _
    rw [Nat.cast_add]
    constructor <;> linarith
  · show w - 1 / 2 ≤ ((m + 1 : Nat) : ℚ) ∧ ((m + 1 : Nat) : ℚ) ≤ w + 1 / 2
    push_cast
    constructor <;> linarith

/-- From the middle below `2 ^ 53` on, rounding carries into a new bit. -/
theorem Holds.roundedMantissa_lt_iff {em : ExtendedMantissa} {v : ℚ} (h : Holds em v) (hv : v < 2 ^ 53) :
    em.roundedMantissa < 2 ^ 53 ↔ v < 2 ^ 53 - 1 / 2 := by
  constructor
  · intro hlt
    by_contra hge
    have hcarry : Near (2 ^ 53) v := ⟨by push_cast; linarith, by push_cast; linarith, fun _ => rfl⟩
    exact absurd (h.roundedMantissa hcarry) hlt.ne
  · intro hlt
    have hrounded := h.roundedMantissa_bounds.2
    have hlt' : (em.roundedMantissa : ℚ) < 2 ^ 53 := by linarith
    exact_mod_cast hlt'

theorem two_zpow_mul_two_le {s t : Int} (h : s < t) : (2 : ℚ) ^ s * 2 ≤ 2 ^ t := by
  rw [← zpow_add_one₀ two_ne_zero]
  exact zpow_le_zpow_right₀ one_le_two h

theorem fits_ofRounded {s : Sign} {m : Nat} {e : Int} :
    Fits (if h : m = 0 then .zero s else .finite s m e (Nat.pos_of_ne_zero h)) ↔ m = 0 ∨ e ≤ 971 := by
  split
  · next hzero => exact iff_of_true trivial (.inl hzero)
  · next hzero => exact (or_iff_right hzero).symm

/-- A significand that is not too large stays as it is. -/
theorem shiftToTargetExponent_of_lt {m : Nat} {t : Int} (hm : m < 2 ^ 53) (ht : -1074 ≤ t) :
    shiftToTargetExponent .binary64 m t .exact = (⟨m, false, false⟩, t) := by
  have hlog : m.log2 < 53 := by
    by_cases hzero : m = 0
    · rw [hzero]
      decide
    · exact (Nat.log2_lt hzero).2 hm
  have htarget : Format.binary64.targetExponent (totalExponent m t) ≤ t := by
    rw [targetExponent_eq, totalExponent]
    omega
  exact shiftToTargetExponent_of_le htarget

/-- A carry into a new bit moves into the exponent. -/
theorem shiftToTargetExponent_carry {t : Int} (ht : -1074 ≤ t) :
    shiftToTargetExponent .binary64 (2 ^ 53) t .exact = (⟨2 ^ 52, false, false⟩, t + 1) := by
  have htarget : Format.binary64.targetExponent (totalExponent (2 ^ 53) t) = t + 1 := by
    rw [targetExponent_eq, totalExponent, Nat.log2_two_pow]
    omega
  rw [shiftToTargetExponent_eq htarget (by omega), show (t + 1 - t).toNat = 1 by omega]
  rfl

/-- A rounded significand has one bit too many at most, and then the exponent is one higher. -/
theorem shiftToTargetExponent_le_iff {m : Nat} {t : Int} (hm : m ≤ 2 ^ 53) (ht : -1074 ≤ t) :
    (shiftToTargetExponent .binary64 m t .exact).1.mantissa = 0 ∨
        (shiftToTargetExponent .binary64 m t .exact).2 ≤ 971 ↔
      m = 0 ∨ t ≤ 970 ∨ t = 971 ∧ m < 2 ^ 53 := by
  by_cases hlt : m < 2 ^ 53
  · rw [shiftToTargetExponent_of_lt hlt ht]
    show m = 0 ∨ t ≤ 971 ↔ _
    omega
  · obtain rfl : m = 2 ^ 53 := by omega
    rw [shiftToTargetExponent_carry ht]
    show 2 ^ 52 = 0 ∨ t + 1 ≤ 971 ↔ _
    omega

namespace Holds

variable {em : ExtendedMantissa} {w : ℚ} {E t : Int}

/-- In units of its target exponent a rational is below `2 ^ 53`. -/
theorem div_lt (h : Holds em w) (ht : Format.binary64.targetExponent (totalExponent em.mantissa E) = t) :
    w * 2 ^ E / 2 ^ t < 2 ^ 53 := by
  rw [targetExponent_eq] at ht
  rw [div_lt_iff₀ (zpow_pos two_pos t)]
  calc w * 2 ^ E < 2 ^ totalExponent em.mantissa E := h.lt_two_zpow E
    _ ≤ 2 ^ (((53 : Nat) : Int) + t) := zpow_le_zpow_right₀ one_le_two (by omega)
    _ = 2 ^ 53 * 2 ^ t := by rw [zpow_add₀ two_ne_zero, zpow_natCast]

/-- Unless that is the least exponent, it is not below `2 ^ 52`. -/
theorem le_div (h : Holds em w) (ht : Format.binary64.targetExponent (totalExponent em.mantissa E) = t)
    (hE : E ≤ t) (hleast : -1074 < t) : 2 ^ 52 ≤ w * 2 ^ E / 2 ^ t := by
  rw [targetExponent_eq] at ht
  have hpos : 0 < em.mantissa := by
    rw [Nat.pos_iff_ne_zero]
    intro hzero
    have : totalExponent 0 E = 1 + E := rfl
    rw [hzero] at ht
    omega
  rw [le_div_iff₀ (zpow_pos two_pos t)]
  calc (2 : ℚ) ^ 52 * 2 ^ t = 2 ^ (((52 : Nat) : Int) + t) := by rw [zpow_add₀ two_ne_zero, zpow_natCast]
    _ = 2 ^ (totalExponent em.mantissa E - 1) := by
        congr 1
        omega
    _ ≤ w * 2 ^ E := h.two_zpow_le hpos E

end Holds

/-- **Rounding overflows exactly out of range.** -/
theorem fits_roundWithAccuracy {s : Sign} {a : Accuracy} {w : ℚ} {E : Int} {M : Nat}
    (hw : Holds (.ofMantissaAndAccuracy M a) w) (hE : E ≤ Format.binary64.targetExponent (totalExponent M E)) :
    Fits (roundWithAccuracy .binary64 s M E a) ↔ w * 2 ^ E < 2 ^ 1024 - 2 ^ 970 := by
  obtain ⟨t, ht⟩ : ∃ t, Format.binary64.targetExponent (totalExponent M E) = t := ⟨_, rfl⟩
  rw [ht] at hE
  have hleast : -1074 ≤ t := by
    rw [targetExponent_eq] at ht
    omega
  have hpow : (0 : ℚ) < 2 ^ t := zpow_pos two_pos t
  have hbelow : w * 2 ^ E / 2 ^ t < 2 ^ 53 := hw.div_lt (by rwa [mantissa_ofMantissaAndAccuracy])
  have habove : -1074 < t → 2 ^ 52 ≤ w * 2 ^ E / 2 ^ t := hw.le_div (by rwa [mantissa_ofMantissaAndAccuracy]) hE
  have hshifted := hw.shiftRight_toNat hE
  unfold roundWithAccuracy
  rw [shiftToTargetExponent_eq ht hE]
  dsimp only
  generalize ExtendedMantissa.ofMantissaAndAccuracy M a >>> (t - E).toNat = em at hshifted
  obtain ⟨hlow, hhigh⟩ := hshifted.roundedMantissa_bounds
  have hbits : em.roundedMantissa ≤ 2 ^ 53 := by
    have hlt : (em.roundedMantissa : ℚ) < 2 ^ 53 + 1 := by linarith
    exact Nat.le_of_lt_succ (by exact_mod_cast hlt)
  have hpositive : -1074 < t → em.roundedMantissa ≠ 0 := by
    intro hnormal hzero
    have hlarge := habove hnormal
    rw [hzero, Nat.cast_zero] at hlow
    linarith
  rw [fits_ofRounded, shiftToTargetExponent_le_iff hbits hleast, overflow_eq]
  rcases lt_trichotomy t 971 with hsmall | rfl | hlarge
  · refine iff_of_true (.inr (.inl (by omega))) ?_
    have hhalf := two_zpow_mul_two_le hsmall
    rw [div_lt_iff₀ hpow] at hbelow
    generalize (2 : ℚ) ^ (971 : Int) = gap at *
    linarith
  · rw [← div_lt_iff₀ hpow, ← hshifted.roundedMantissa_lt_iff hbelow]
    have hne := hpositive (by omega)
    omega
  · refine iff_of_false (by have hne := hpositive (by omega); omega) (not_lt.2 ?_)
    have hnormal := habove (by omega)
    have hdouble := two_zpow_mul_two_le hlarge
    have hgap : (0 : ℚ) < 2 ^ (971 : Int) := zpow_pos two_pos _
    rw [le_div_iff₀ hpow] at hnormal
    generalize (2 : ℚ) ^ (971 : Int) = gap at *
    linarith

/-! ### Normalizing -/

theorem totalExponent_shiftLeft {m : Nat} (hm : 0 < m) (e : Int) (n : Nat) :
    totalExponent (m <<< n) (e - n) = totalExponent m e := by
  have hlog : (m <<< n).log2 = m.log2 + n := by
    rw [Nat.shiftLeft_eq, Nat.log2_eq_iff (by positivity)]
    have hlow := Nat.log2_self_le hm.ne'
    have hhigh := @Nat.lt_log2_self m
    constructor
    · rw [pow_add]
      exact Nat.mul_le_mul_right _ hlow
    · rw [Nat.add_right_comm, pow_add]
      exact Nat.mul_lt_mul_of_pos_right hhigh (by positivity)
  rw [totalExponent, totalExponent, hlog]
  push_cast
  omega

theorem fits_round {s : Sign} {m : Nat} {e : Int} (hm : 0 < m) :
    Fits (.round .binary64 s m e) ↔ (m * 2 ^ e : ℚ) < 2 ^ 1024 - 2 ^ 970 := by
  obtain ⟨n, hn⟩ : ∃ n, (e - Format.binary64.targetExponent (totalExponent m e)).toNat = n := ⟨_, rfl⟩
  have hvalue : ((m <<< n : Nat) : ℚ) * 2 ^ (e - n) = m * 2 ^ e := by
    rw [Nat.shiftLeft_eq, zpow_sub₀ two_ne_zero, zpow_natCast]
    push_cast
    field_simp
  rw [← hvalue]
  unfold UnpackedFloat.round decreaseExponent
  dsimp only
  rw [hn]
  refine fits_roundWithAccuracy rfl ?_
  rw [totalExponent_shiftLeft hm]
  omega

theorem fits_normalize {n : Int} {e : Int} {s : Sign} :
    Fits (.normalize .binary64 n e s) ↔ InRange (n * 2 ^ e) := by
  unfold UnpackedFloat.normalize
  rcases lt_trichotomy n 0 with hn | rfl | hn
  · rw [Int.compare_eq_lt.2 hn]
    obtain ⟨k, rfl⟩ : ∃ k : Nat, n = -(k : Int) := ⟨(-n).toNat, by omega⟩
    show Fits (.round .binary64 .negative (- -(k : Int)).toNat e) ↔ _
    rw [show (- -(k : Int)).toNat = k by omega, fits_round (by omega)]
    exact (inRange_apply .negative k e).symm
  · show Fits (.zero s) ↔ _
    rw [Int.cast_zero, zero_mul]
    exact iff_of_true trivial inRange_zero
  · rw [Int.compare_eq_gt.2 hn]
    obtain ⟨k, rfl⟩ : ∃ k : Nat, n = (k : Int) := ⟨n.toNat, by omega⟩
    show Fits (.round .binary64 .positive (k : Int).toNat e) ↔ _
    rw [Int.toNat_natCast, fits_round (by omega)]
    exact (inRange_apply .positive k e).symm

/-! ### Operations -/

/-- An exponent is lowered by shifting the significand. -/
theorem apply_decreaseExponent (s : Sign) (m : Nat) {e t : Int} (hle : t ≤ e) :
    ((s.apply (decreaseExponent m e t).1 : Int) : ℚ) * 2 ^ t = (s.apply m : Int) * 2 ^ e := by
  obtain ⟨n, rfl⟩ := Int.le.dest hle
  have hshift : (decreaseExponent m (t + n) t).1 = m * 2 ^ n := by
    show m <<< (t + n - t).toNat = _
    rw [show (t + n - t).toNat = n by omega, Nat.shiftLeft_eq]
  rw [hshift, zpow_add₀ two_ne_zero, zpow_natCast]
  cases s <;> simp only [Sign.apply] <;> push_cast <;> ring

theorem fits_add {u v : UnpackedFloat} (hu : IsUnpacked u) (hv : IsUnpacked v) :
    Fits (.add .binary64 u v) ↔
      u.isFinite = true ∧ v.isFinite = true ∧ InRange (ratOf u + ratOf v) := by
  cases u with
  | notANumber => exact iff_of_false id fun h => nomatch h.1
  | infinity s =>
      refine iff_of_false ?_ fun h => nomatch h.1
      cases v with
      | infinity s' =>
          show ¬Fits (if s == s' then .infinity s else .notANumber)
          split <;> exact id
      | notANumber | zero | finite => exact id
  | zero s =>
      have hsum : ratOf (.zero s) + ratOf v = ratOf v := zero_add _
      rw [hsum]
      cases v with
      | infinity | notANumber => exact iff_of_false id fun h => nomatch h.2.1
      | zero s' =>
          refine iff_of_true ?_ ⟨rfl, rfl, inRange_zero⟩
          show Fits (if s == s' then .zero s else .zero .positive)
          split <;> trivial
      | finite => exact iff_of_true (hv.fits.2 rfl) ⟨rfl, rfl, hv.inRange⟩
  | finite s m e hm =>
      cases v with
      | infinity | notANumber => exact iff_of_false id fun h => nomatch h.2.1
      | zero s' =>
          have hsum : ratOf (.finite s m e hm) + ratOf (.zero s') =
            ratOf (.finite s m e hm) := add_zero _
          rw [hsum]
          exact iff_of_true (hu.fits.2 rfl) ⟨rfl, rfl, hu.inRange⟩
      | finite s' m' e' hm' =>
          have hsum : ratOf (.finite s m e hm) + ratOf (.finite s' m' e' hm') =
              (s.apply (decreaseExponent m e (min e e')).1 +
                s'.apply (decreaseExponent m' e' (min e e')).1 : Int) * 2 ^ min e e' := by
            rw [Int.cast_add, add_mul, apply_decreaseExponent s m (min_le_left e e'),
              apply_decreaseExponent s' m' (min_le_right e e')]
            rfl
          rw [hsum, ← fits_normalize (s := .positive)]
          exact ⟨fun h => ⟨rfl, rfl, h⟩, fun h => h.2.2⟩

/-- The exact product of packed numbers has not too few bits for its exponent. -/
theorem le_targetExponent_mul {m m' : Nat} {e e' : Int} (h : Canonical m e) (h' : Canonical m' e') :
    e + e' ≤ Format.binary64.targetExponent (totalExponent (m * m') (e + e')) := by
  have hpos := h.pos
  have hpos' := h'.pos
  have hne : m * m' ≠ 0 := (Nat.mul_pos hpos hpos').ne'
  rw [targetExponent_eq, totalExponent]
  rcases h.normal with hnormal | hleast
  · have hlog : 52 ≤ (m * m').log2 := (Nat.le_log2 hne).2 (by nlinarith)
    omega
  · rcases h'.normal with hnormal' | hleast'
    · have hlog : 52 ≤ (m * m').log2 := (Nat.le_log2 hne).2 (by nlinarith)
      omega
    · omega

theorem fits_mul {u v : UnpackedFloat} (hu : IsUnpacked u) (hv : IsUnpacked v) :
    Fits (.mul .binary64 u v) ↔
      u.isFinite = true ∧ v.isFinite = true ∧ InRange (ratOf u * ratOf v) := by
  cases u with
  | notANumber => exact iff_of_false id fun h => nomatch h.1
  | infinity s =>
      refine iff_of_false ?_ fun h => nomatch h.1
      cases v <;> exact id
  | zero s =>
      have hproduct : ratOf (.zero s) * ratOf v = 0 := zero_mul _
      rw [hproduct]
      cases v with
      | infinity | notANumber => exact iff_of_false id fun h => nomatch h.2.1
      | zero | finite => exact iff_of_true trivial ⟨rfl, rfl, inRange_zero⟩
  | finite s m e hm =>
      cases v with
      | infinity | notANumber => exact iff_of_false id fun h => nomatch h.2.1
      | zero s' =>
          have hproduct : ratOf (.finite s m e hm) * ratOf (.zero s') = 0 := mul_zero _
          rw [hproduct]
          exact iff_of_true trivial ⟨rfl, rfl, inRange_zero⟩
      | finite s' m' e' hm' =>
          have hbits := le_targetExponent_mul (hu s m e hm rfl) (hv s' m' e' hm' rfl)
          have hfits : Fits (.mul .binary64 (.finite s m e hm) (.finite s' m' e' hm')) ↔
              ((m * m' : Nat) : ℚ) * 2 ^ (e + e') < 2 ^ 1024 - 2 ^ 970 := fits_roundWithAccuracy rfl hbits
          have hproduct : |ratOf (.finite s m e hm) * ratOf (.finite s' m' e' hm')| =
              ((m * m' : Nat) : ℚ) * 2 ^ (e + e') := by
            rw [abs_mul, abs_ratOf_finite, abs_ratOf_finite, zpow_add₀ two_ne_zero]
            push_cast
            ring
          rw [hfits, InRange, hproduct]
          exact ⟨fun h => ⟨rfl, rfl, h⟩, fun h => h.2.2⟩

theorem fits_div {u v : UnpackedFloat} (hne : ratOf v ≠ 0) :
    Fits (.div .binary64 u v) ↔ u.isFinite = true ∧ InRange (ratOf u / ratOf v) := by
  cases v with
  | infinity | notANumber | zero => exact absurd rfl hne
  | finite s' m' e' hm' =>
      cases u with
      | infinity | notANumber => exact iff_of_false id fun h => nomatch h.1
      | zero s =>
          have hquotient : ratOf (.zero s) / ratOf (.finite s' m' e' hm') = 0 := zero_div _
          rw [hquotient]
          exact iff_of_true trivial ⟨rfl, inRange_zero⟩
      | finite s m e hm =>
          obtain ⟨M, E, a, w, hcore, hw, hvalue, hE⟩ := exists_holds_divCore e e' hm hm'
          have hround : UnpackedFloat.div .binary64 (.finite s m e hm) (.finite s' m' e' hm') =
              roundWithAccuracy .binary64 (s / s') M E a := by
            show roundWithAccuracy .binary64 (s / s') (divCore .binary64 m e m' e').1
              (divCore .binary64 m e m' e').2.1 (divCore .binary64 m e m' e').2.2 = _
            rw [hcore]
          have hquotient : |ratOf (.finite s m e hm) / ratOf (.finite s' m' e' hm')| = w * 2 ^ E := by
            rw [abs_div, abs_ratOf_finite, abs_ratOf_finite, hvalue]
          rw [hround, fits_roundWithAccuracy hw hE, InRange, hquotient]
          exact ⟨fun h => ⟨rfl, h⟩, And.right⟩

section

variable (x y : Float)

/-- **A sum is finite** if its parts are and the exact sum is in range. -/
theorem isFinite_add : (x + y).isFinite = true ↔
    x.isFinite = true ∧ y.isFinite = true ∧ InRange (toRat x + toRat y) :=
  (isFinite_of_pack rfl).trans (fits_add (isUnpacked_unpack x) (isUnpacked_unpack y))

/-- **A product is finite** if its factors are and the exact product is in range. -/
theorem isFinite_mul : (x * y).isFinite = true ↔
    x.isFinite = true ∧ y.isFinite = true ∧ InRange (toRat x * toRat y) :=
  (isFinite_of_pack rfl).trans (fits_mul (isUnpacked_unpack x) (isUnpacked_unpack y))

/-- **A quotient is finite** if the dividend is and the exact quotient is in range. -/
theorem isFinite_div (hy : toRat y ≠ 0) :
    (x / y).isFinite = true ↔ x.isFinite = true ∧ InRange (toRat x / toRat y) :=
  (isFinite_of_pack rfl).trans (fits_div hy)

theorem isFinite_neg : (-x).isFinite = x.isFinite := by
  have hu := isUnpacked_unpack x
  refine Bool.eq_iff_iff.2 ((isFinite_of_pack (u := x.toModel.unpack.neg) rfl).trans ?_)
  refine Iff.trans ?_ hu.fits
  cases x.toModel.unpack <;> rfl

end

/-! ### Always in range -/

theorem natCast_lt_overflow {n : Nat} (hn : n < 2 ^ 64) : (n : ℚ) < 2 ^ 1024 - 2 ^ 970 := by
  have hpow : (2 : ℚ) ^ (12 : Int) ≤ 2 ^ (971 : Int) := zpow_le_zpow_right₀ one_le_two (by norm_num)
  have hnQ : (n : ℚ) < 2 ^ 64 := by exact_mod_cast hn
  rw [overflow_eq]
  calc (n : ℚ) < (2 ^ 53 - 1 / 2) * 2 ^ (12 : Int) := hnQ.trans_le (by norm_num)
    _ ≤ (2 ^ 53 - 1 / 2) * 2 ^ (971 : Int) := mul_le_mul_of_nonneg_left hpow (by norm_num)

/-- Naturals of more bits than a significand has are multiplied out. -/
theorem fits_ofScientific {n : Nat} (hlarge : 2 ^ 53 ≤ n) (hn : n < 2 ^ 64) :
    Fits (.ofScientific .binary64 n 0) := by
  have hread : UnpackedFloat.ofScientific .binary64 n 0 =
      roundWithAccuracy .binary64 .positive (n <<< 53 * 1) (-53 + 0) .exact := by
    have hbits : (2 ^ Format.binary64.exponentBits : Int) = 2048 := rfl
    unfold UnpackedFloat.ofScientific
    rw [dif_neg (by omega), if_neg (by decide), if_neg (by omega), if_pos le_rfl]
    rfl
  have hlog : 106 ≤ (n <<< 53 * 1).log2 := by
    have hpos : n * 2 ^ 53 ≠ 0 := by omega
    rw [mul_one, Nat.shiftLeft_eq]
    exact (Nat.le_log2 hpos).2 (Nat.mul_le_mul_right (2 ^ 53) hlarge)
  have hbits : (-53 + 0 : Int) ≤ Format.binary64.targetExponent (totalExponent (n <<< 53 * 1) (-53 + 0)) := by
    rw [targetExponent_eq, totalExponent]
    omega
  have hholds : Holds (.ofMantissaAndAccuracy (n <<< 53 * 1) .exact) ((n <<< 53 * 1 : Nat) : ℚ) := rfl
  have hvalue : ((n <<< 53 * 1 : Nat) : ℚ) * 2 ^ (-53 + 0 : Int) = n := by
    rw [mul_one, Nat.shiftLeft_eq, add_zero]
    exact value_shift n 53
  rw [hread, fits_roundWithAccuracy hholds hbits, hvalue]
  exact natCast_lt_overflow hn

/-- Naturals of 64 bits are finite numbers. -/
theorem isFinite_ofNat {n : Nat} (hn : n < 2 ^ 64) : (Float.ofNat n).isFinite = true := by
  rcases Nat.eq_zero_or_pos n with rfl | hpos
  · decide +kernel
  show (Float.ofScientific n false 0).isFinite = true
  unfold Float.ofScientific
  split
  · next hfast =>
      obtain ⟨p, q, hp, hunpack, -, hone⟩ := unpack_powerOfTen (k := 0) (by decide)
      have hexact := unpack_toFloat hpos hfast.1
      refine (isFinite_mul _ _).2
        ⟨congrArg UnpackedFloat.isFinite hexact, congrArg UnpackedFloat.isFinite hunpack, ?_⟩
      have hnat : toRat n.toUInt64.toFloat = n := (congrArg ratOf hexact).trans (value_shift n _)
      have hunit : toRat Float.exactlyRepresentablePowersOfTen[0] = 1 :=
        (congrArg ratOf hunpack).trans (hone.trans (pow_zero 10))
      show InRange (toRat n.toUInt64.toFloat * toRat Float.exactlyRepresentablePowersOfTen[0])
      rw [hnat, hunit, mul_one, InRange, Nat.abs_cast]
      exact natCast_lt_overflow hn
  · next hslow =>
      have hlarge : 2 ^ 53 ≤ n := by
        by_contra hlt
        exact hslow ⟨by omega, by omega⟩
      exact (isFinite_of_pack rfl).2 (fits_ofScientific hlarge hn)

theorem toRat_of_bits {x : Float} {m : Nat} {e : Int} (hm : Canonical m e) (hx : x.toBits.toNat = bits m e) :
    toRat x = m * 2 ^ e :=
  congrArg ratOf (unpack_of_bits hm hx)

theorem toRat_one : toRat 1 = 1 := by
  have hunit : Canonical (2 ^ 52) (-52) := ⟨by decide, by decide, by decide, by decide, .inl le_rfl⟩
  rw [toRat_of_bits hunit (by decide +kernel)]
  norm_num

theorem toRat_hundred : toRat 100 = 100 := by
  have hcentury : Canonical (25 * 2 ^ 48) (-46) := ⟨by decide, by decide, by decide, by decide, .inl (by decide)⟩
  rw [toRat_of_bits hcentury (by decide +kernel)]
  norm_num

theorem isFinite_div_hundred {x : Float} (hx : x.isFinite = true) : (x / 100).isFinite = true := by
  refine (isFinite_div x 100 (by rw [toRat_hundred]; norm_num)).2 ⟨hx, inRange_of_le ?_⟩
  rw [toRat_hundred, abs_div, abs_of_pos (by norm_num : (0 : ℚ) < 100)]
  exact (div_le_self (abs_nonneg _) (by norm_num)).trans (isUnpacked_unpack x).abs_ratOf_le

/-- What a percentage adds to is finite. -/
theorem isFinite_one_add_div_hundred {x : Float} (hx : x.isFinite = true) : (1 + x / 100).isFinite = true := by
  refine (isFinite_add _ _).2 ⟨by decide +kernel, isFinite_div_hundred hx, ?_⟩
  -- the largest number is further than one from the end of the range
  have hle : |toRat (x / 100)| ≤ (2 ^ 53 - 1) * 2 ^ (971 : Int) := (isUnpacked_unpack (x / 100)).abs_ratOf_le
  have hgap : (2 : ℚ) < 2 ^ (971 : Int) := by
    simpa using zpow_lt_zpow_right₀ (one_lt_two : (1 : ℚ) < 2) (by norm_num : (1 : Int) < 971)
  have hsum : |1 + toRat (x / 100)| ≤ 1 + |toRat (x / 100)| := by
    simpa using abs_add_le 1 (toRat (x / 100))
  rw [toRat_one, InRange, overflow_eq]
  generalize (2 : ℚ) ^ (971 : Int) = gap at hle hgap
  linarith

end Costing.Number
