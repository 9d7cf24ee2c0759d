import Costing.Proofs.Number.Line
import Costing.Proofs.Number.NotANumber

/-!
# Number — rounding keeps the order

What a rational is rounded to grows with the rational, and so products of numbers are in the order of the exact products.

* `RoundsAt`: a rational is rounded to a count of the gaps between the numbers around it.
* `toNat_pack_roundWithAccuracy`: the bits that a rounded rational is packed to.
* `Rounded`, `Rounded.le`: a rational is rounded to a number, and **rounding keeps the order**.
* `rounded_mul`: a product is the exact product rounded.
* `mul_le_mul_right`: **multiplying by a number that is not negative keeps the order.**
-/

namespace Costing.Number

open Float.Model (UnpackedFloat Format totalExponent)
open Float.Model.UnpackedFloat (Accuracy ExtendedMantissa Sign roundWithAccuracy unpackMantissa)

/-! ### The nearest natural number -/

/-- A larger rational is not rounded to a smaller natural number. -/
theorem Near.mono {m m' : Nat} {w w' : ℚ} (h : Near m w) (h' : Near m' w') (hle : w ≤ w') : m ≤ m' := by
  by_contra hlt
  have hnext : (m' : ℚ) + 1 ≤ m := by exact_mod_cast Nat.not_le.1 hlt
  have hlow := h.low
  have hhigh := h'.high
  -- the two rationals are the middle between two neighbours, of which only one is even
  have heven := h.even (.inl (by linarith))
  have heven' := h'.even (.inr (by linarith))
  have hm : (m : ℚ) = m' + 1 := by linarith
  have hm' : m = m' + 1 := by exact_mod_cast hm
  omega

theorem Holds.near {em : ExtendedMantissa} {w : ℚ} (h : Holds em w) : Near em.roundedMantissa w := by
  obtain ⟨hlow, hhigh⟩ := h.roundedMantissa_bounds
  refine ⟨by linarith, by linarith, ?_⟩
  obtain ⟨m, _ | _, _ | _⟩ := em <;> dsimp only [Holds] at h
  · show w = m - 1 / 2 ∨ w = m + 1 / 2 → _
    rintro (h' | h') <;> linarith
  · show w = m - 1 / 2 ∨ w = m + 1 / 2 → _
    rintro (h' | h') <;> linarith
  · intro _
    show (m + m % 2) % 2 = 0
    omega
  · show w = (m + 1 : Nat) - 1 / 2 ∨ w = (m + 1 : Nat) + 1 / 2 → _
    push_cast
    rintro (h' | h') <;> linarith

/-! ### Rounding to a gap -/

theorem bits_le_bits {m m' : Nat} {e e' : Int} (he : e < e') (hm : m ≤ 2 ^ 53) (hm' : 2 ^ 52 ≤ m') (hleast : -1074 ≤ e) :
    bits m e ≤ bits m' e' := by
  unfold bits
  omega

/-- A rational that is not negative is rounded to `r` units of `2 ^ t`, which is the gap between the numbers around
it. -/
structure RoundsAt (v : ℚ) (r : Nat) (t : Int) : Prop where
  near : Near r (v / 2 ^ t)
  least : -1074 ≤ t
  below : v / 2 ^ t < 2 ^ 53
  normal : 2 ^ 52 ≤ v / 2 ^ t ∨ t = -1074

namespace RoundsAt

variable {v v' : ℚ} {r r' : Nat} {t t' : Int}

theorem le (h : RoundsAt v r t) : r ≤ 2 ^ 53 := by
  have hlow := h.near.low
  have hbelow := h.below
  have hlt : (r : ℚ) < 2 ^ 53 + 1 := by linarith
  exact Nat.le_of_lt_succ (by exact_mod_cast hlt)

theorem le_of_normal (h : RoundsAt v r t) (ht : -1074 < t) : 2 ^ 52 ≤ r := by
  have hnormal := h.normal.resolve_right ht.ne'
  have hhigh := h.near.high
  have hlt : (2 ^ 52 : ℚ) < r + 1 := by linarith
  exact Nat.le_of_lt_succ (by exact_mod_cast hlt)

theorem exponent_le (h : RoundsAt v r t) (h' : RoundsAt v' r' t') (hle : v ≤ v') : t ≤ t' := by
  by_contra hlt
  have hnormal := h.normal.resolve_right (by have := h'.least; omega)
  have hpow := two_zpow_mul_two_le (not_le.1 hlt)
  have hlow := (le_div_iff₀ (zpow_pos two_pos t)).1 hnormal
  have hhigh := (div_lt_iff₀ (zpow_pos two_pos t')).1 h'.below
  linarith

/-- **Rounding keeps the order.** -/
theorem bits_mono (h : RoundsAt v r t) (h' : RoundsAt v' r' t') (hle : v ≤ v') : bits r t ≤ bits r' t' := by
  rcases (h.exponent_le h' hle).eq_or_lt with rfl | hlt
  · have hr := h.near.mono h'.near (div_le_div_of_nonneg_right hle (zpow_pos two_pos t).le)
    unfold bits
    omega
  · exact bits_le_bits hlt h.le (h'.le_of_normal (h.least.trans_lt hlt)) h.least

end RoundsAt

theorem roundsAt_zero : RoundsAt 0 0 (-1074) := by
  refine ⟨⟨?_, ?_, ?_⟩, le_rfl, ?_, .inr rfl⟩ <;> rw [zero_div]
  · norm_num
  · norm_num
  · intro _
    rfl
  · norm_num

/-! ### Packing -/

/-- The bits of infinity without its sign. -/
def infinityBits : Nat :=
  2047 * 2 ^ 52

theorem toNat_packedInfinity (s : Sign) :
    (UnpackedFloat.packedInfinity .binary64 s).toNat = s.toBitVec.toNat * 2 ^ 63 + infinityBits := by
  rw [UnpackedFloat.packedInfinity, toNat_packComponents, infinityBits]
  show _ + 2047 * 2 ^ 52 + 0 = _
  rw [Nat.add_zero]

theorem toNat_packedZero (s : Sign) :
    (UnpackedFloat.packedZero .binary64 s).toNat = s.toBitVec.toNat * 2 ^ 63 := by
  rw [UnpackedFloat.packedZero, toNat_packComponents]
  show _ + 0 * 2 ^ 52 + 0 = _
  rw [Nat.zero_mul, Nat.add_zero]

/-- A significand with an exponent is packed to its bits, or to infinity if there are more. -/
theorem toNat_pack_ofRounded {s : Sign} {m : Nat} {e : Int} (hm : m < 2 ^ 53) (hleast : -1074 ≤ e)
    (hnormal : 2 ^ 52 ≤ m ∨ e = -1074) :
    (UnpackedFloat.pack .binary64
      (if h : m = 0 then .zero s else .finite s m e (Nat.pos_of_ne_zero h))).toNat =
        s.toBitVec.toNat * 2 ^ 63 + min (bits m e) infinityBits := by
  split
  · next hzero =>
      have hbits : bits m e = 0 := by
        unfold bits
        omega
      rw [hbits, Nat.zero_min, UnpackedFloat.pack, toNat_packedZero, Nat.add_zero]
  · next hne =>
      by_cases hlarge : e ≤ 971
      · have hc : Canonical m e := ⟨Nat.pos_of_ne_zero hne, hm, hleast, hlarge, hnormal⟩
        have hbits : bits m e ≤ infinityBits := (bits_lt hc).le
        rw [toNat_pack_finite hc, Nat.min_eq_left hbits]
      · have hbits : infinityBits ≤ bits m e := by
          unfold infinityBits bits
          omega
        rw [Nat.min_eq_right hbits, UnpackedFloat.pack]
        dsimp only
        rw [toNat_biased, if_pos (by omega), toNat_packedInfinity]

theorem toNat_pack_roundWithAccuracy {s : Sign} {a : Accuracy} {w : ℚ} {E : Int} {M : Nat}
    (hw : Holds (.ofMantissaAndAccuracy M a) w) (hE : E ≤ Format.binary64.targetExponent (totalExponent M E)) :
    ∃ r t, RoundsAt (w * 2 ^ E) r t ∧
      (UnpackedFloat.pack .binary64 (roundWithAccuracy .binary64 s M E a)).toNat =
        s.toBitVec.toNat * 2 ^ 63 + min (bits r t) infinityBits := by
  obtain ⟨t, ht⟩ : ∃ t, Format.binary64.targetExponent (totalExponent M E) = t := ⟨_, rfl⟩
  rw [ht] at hE
  have hleast : -1074 ≤ t := by
    rw [targetExponent_eq] at ht
    omega
  have hbelow : w * 2 ^ E / 2 ^ t < 2 ^ 53 := hw.div_lt (by rwa [mantissa_ofMantissaAndAccuracy])
  have habove : -1074 < t → 2 ^ 52 ≤ w * 2 ^ E / 2 ^ t := hw.le_div (by rwa [mantissa_ofMantissaAndAccuracy]) hE
  have hshifted := hw.shiftRight_toNat hE
  unfold roundWithAccuracy
  rw [shiftToTargetExponent_eq ht hE]
  dsimp only
  generalize ExtendedMantissa.ofMantissaAndAccuracy M a >>> (t - E).toNat = em at hshifted
  have hrounds : RoundsAt (w * 2 ^ E) em.roundedMantissa t := by
    refine ⟨hshifted.near, hleast, hbelow, ?_⟩
    rcases hleast.eq_or_lt with h | h
    · exact .inr h.symm
    · exact .inl (habove h)
  refine ⟨em.roundedMantissa, t, hrounds, ?_⟩
  have hle := hrounds.le
  have hnormal : 2 ^ 52 ≤ em.roundedMantissa ∨ t = -1074 := by
    rcases hleast.eq_or_lt with h | h
    · exact .inr h.symm
    · exact .inl (hrounds.le_of_normal h)
  generalize em.roundedMantissa = r at hle hnormal
  by_cases hlt : r < 2 ^ 53
  · rw [shiftToTargetExponent_of_lt hlt hleast]
    exact toNat_pack_ofRounded hlt hleast hnormal
  -- the carry moves into the exponent
  · obtain rfl : r = 2 ^ 53 := by omega
    have hbits : bits (2 ^ 53) t = bits (2 ^ 52) (t + 1) := by
      unfold bits
      omega
    have hhalf : 2 ^ 52 < 2 ^ 53 := by decide
    rw [shiftToTargetExponent_carry hleast, hbits]
    exact toNat_pack_ofRounded hhalf (by omega) (.inl le_rfl)

/-! ### Rounded numbers -/

/-- The level of a number is told by the bits that it is packed to. -/
theorem level_of_toNat {x : Float} {s : Sign} {n : Nat} (hx : x.toBits.toNat = s.toBitVec.toNat * 2 ^ 63 + n)
    (hn : n < 2 ^ 63) : level x = s.apply n := by
  have hsign : signOf x.toBits.toBitVec = s := by
    have htoNat : x.toBits.toBitVec.toNat = x.toBits.toNat := rfl
    rw [signOf_eq, htoNat, hx]
    cases s with
    | positive => exact if_neg (by show ¬ 2 ^ 63 ≤ 0 * 2 ^ 63 + n; omega)
    | negative => exact if_pos (by show 2 ^ 63 ≤ 1 * 2 ^ 63 + n; omega)
  have hmagnitude : x.toBits.toNat % 2 ^ 63 = n := by omega
  rw [level_eq, hsign, hmagnitude]

theorem not_isNaN_of_toNat {x : Float} {n : Nat} {s : Sign} (hx : x.toBits.toNat = s.toBitVec.toNat * 2 ^ 63 + n)
    (hn : n ≤ infinityBits) : x.isNaN = false := by
  show (UnpackedFloat.unpack .binary64 x.toBits.toBitVec).isNaN = false
  have hexponent := toNat_unpackExponent x.toBits.toBitVec
  have hmantissa := toNat_unpackMantissa x.toBits.toBitVec
  have htoNat : x.toBits.toBitVec.toNat = x.toBits.toNat := rfl
  rw [htoNat, hx] at hexponent hmantissa
  unfold infinityBits at hn
  unfold UnpackedFloat.unpack
  dsimp only
  split
  · next hones =>
      rw [hones] at hexponent
      change 2047 = _ at hexponent
      have hzero : @unpackMantissa .binary64 x.toBits.toBitVec = 0#_ := BitVec.eq_of_toNat_eq (by
        rw [hmantissa]
        show _ = 0
        omega)
      rw [if_pos hzero]
      rfl
  · split
    · split <;> rfl
    · rfl

/-- A rational with a sign. -/
def signedRat (s : Sign) (v : ℚ) : ℚ :=
  match s with
  | .positive => v
  | .negative => -v

theorem signedRat_mul (s s' : Sign) (v v' : ℚ) : signedRat s v * signedRat s' v' = signedRat (s * s') (v * v') := by
  cases s <;> cases s'
  · exact neg_mul_neg v v'
  · exact neg_mul v v'
  · exact mul_neg v v'
  · rfl

theorem ratOf_finite (s : Sign) {m : Nat} (e : Int) (hm : 0 < m) :
    ratOf (.finite s m e hm) = signedRat s (m * 2 ^ e) := by
  cases s with
  | positive => rfl
  | negative =>
      show ((-(m : Int) : Int) : ℚ) * 2 ^ e = -(m * 2 ^ e)
      push_cast
      ring

theorem ratOf_zero (s : Sign) : ratOf (.zero s) = signedRat s 0 := by
  cases s with
  | positive => rfl
  | negative => exact neg_zero.symm

/-- A rational is rounded to a number. -/
def Rounded (v : ℚ) (x : Float) : Prop :=
  ∃ s w r t, 0 ≤ w ∧ v = signedRat s w ∧ RoundsAt w r t ∧
    x.toBits.toNat = s.toBitVec.toNat * 2 ^ 63 + min (bits r t) infinityBits

namespace Rounded

variable {v v' : ℚ} {x x' : Float}

theorem not_isNaN (h : Rounded v x) : x.isNaN = false := by
  obtain ⟨s, w, r, t, -, -, -, hx⟩ := h
  exact not_isNaN_of_toNat hx (Nat.min_le_right _ _)

/-- **Rounding keeps the order.** -/
theorem le (h : Rounded v x) (h' : Rounded v' x') (hle : v ≤ v') : x ≤ x' := by
  rw [le_iff_level h.not_isNaN h'.not_isNaN]
  obtain ⟨s, w, r, t, hw, rfl, hr, hx⟩ := h
  obtain ⟨s', w', r', t', hw', rfl, hr', hx'⟩ := h'
  have hbelow (n : Nat) : min n infinityBits < 2 ^ 63 := by
    unfold infinityBits
    omega
  rw [level_of_toNat hx (hbelow _), level_of_toNat hx' (hbelow _)]
  cases s <;> cases s' <;> simp only [signedRat, Sign.apply] at hle ⊢
  case positive.positive =>
    have hbits := hr.bits_mono hr' hle
    omega
  case positive.negative =>
    -- both are zero
    have hbits := hr.bits_mono roundsAt_zero (by linarith)
    have hbits' := hr'.bits_mono roundsAt_zero (by linarith)
    have hzero : bits 0 (-1074) = 0 := rfl
    omega
  case negative.positive => omega
  case negative.negative =>
    have hbits := hr'.bits_mono hr (by linarith)
    omega

end Rounded

theorem rounded_zero {x : Float} {s : Sign} (hx : x.toBits.toNat = s.toBitVec.toNat * 2 ^ 63) :
    Rounded (signedRat s 0) x := by
  have hzero : min (bits 0 (-1074)) infinityBits = 0 := Nat.zero_min _
  exact ⟨s, 0, 0, -1074, le_rfl, rfl, roundsAt_zero, by rw [hx, hzero, Nat.add_zero]⟩

/-! ### Products -/

/-- **A product is the exact product rounded.** -/
theorem rounded_mul {x y : Float} (hx : x.isFinite) (hy : y.isFinite) : Rounded (toRat x * toRat y) (x * y) := by
  have hux := isUnpacked_unpack x
  have huy := isUnpacked_unpack y
  have hbits : (x * y).toBits.toNat =
    (UnpackedFloat.pack .binary64 (.mul .binary64 x.toModel.unpack y.toModel.unpack)).toNat := rfl
  change x.toModel.unpack.isFinite = true at hx
  change y.toModel.unpack.isFinite = true at hy
  rw [toRat, toRat]
  generalize x.toModel.unpack = u at hx hux hbits
  generalize y.toModel.unpack = v at hy huy hbits
  cases u with
  | notANumber | infinity => cases hx
  | zero s =>
      cases v with
      | notANumber | infinity => cases hy
      | zero s' =>
          rw [ratOf_zero, ratOf_zero, signedRat_mul, zero_mul]
          exact rounded_zero (hbits.trans (toNat_packedZero _))
      | finite s' m' e' hm' =>
          rw [ratOf_zero, ratOf_finite, signedRat_mul, zero_mul]
          exact rounded_zero (hbits.trans (toNat_packedZero _))
  | finite s m e hm =>
      cases v with
      | notANumber | infinity => cases hy
      | zero s' =>
          rw [ratOf_zero, ratOf_finite, signedRat_mul, mul_zero]
          exact rounded_zero (hbits.trans (toNat_packedZero _))
      | finite s' m' e' hm' =>
          have hexact : Holds (.ofMantissaAndAccuracy (m * m') .exact) ((m * m' : Nat) : ℚ) := rfl
          obtain ⟨r, t, hr, hpack⟩ := toNat_pack_roundWithAccuracy (s := s * s') hexact
            (le_targetExponent_mul (hux s m e hm rfl) (huy s' m' e' hm' rfl))
          refine ⟨s * s', _, r, t, by positivity, ?_, hr, hbits.trans hpack⟩
          rw [ratOf_finite, ratOf_finite, signedRat_mul, zpow_add₀ two_ne_zero]
          push_cast
          ring_nf

/-! ### Exact values -/

/-- A finite number by its sign, its significand and its exponent; zero is one too. -/
theorem exists_signed {x : Float} (hx : x.isFinite) :
    ∃ (s : Sign) (m : Nat) (e : Int), toRat x = signedRat s (m * 2 ^ e) ∧ level x = s.apply (bits m e : Nat) ∧
      m < 2 ^ 53 ∧ -1074 ≤ e ∧ (2 ^ 52 ≤ m ∨ e = -1074) := by
  have hux := isUnpacked_unpack x
  rw [level_eq_merge_place (not_isNaN_of_isFinite hx), toRat]
  change x.toModel.unpack.isFinite = true at hx
  generalize x.toModel.unpack = u at hx hux
  cases u with
  | notANumber | infinity => cases hx
  | zero s =>
      have hbits : bits 0 (-1074) = 0 := rfl
      refine ⟨s, 0, -1074, ?_, ?_, by decide, le_rfl, .inr rfl⟩
      · rw [ratOf_zero, Nat.cast_zero, zero_mul]
      · rw [hbits]
        exact merge_signedPlace s 0
  | finite s m e hm =>
      obtain ⟨-, hlt, hleast, -, hnormal⟩ := hux s m e hm rfl
      exact ⟨s, m, e, ratOf_finite s e hm, merge_signedPlace s _, hlt, hleast, hnormal⟩

/-- Magnitudes are in the order of their bits. -/
theorem value_le_of_bits {m m' : Nat} {e e' : Int} (hlt : m < 2 ^ 53) (hlt' : m' < 2 ^ 53) (hleast' : -1074 ≤ e')
    (hnormal : 2 ^ 52 ≤ m ∨ e = -1074) (hnormal' : 2 ^ 52 ≤ m' ∨ e' = -1074) (h : bits m e ≤ bits m' e') :
    (m * 2 ^ e : ℚ) ≤ m' * 2 ^ e' := by
  have hpow : (0 : ℚ) < 2 ^ e := zpow_pos two_pos e
  unfold bits at h
  rcases lt_trichotomy e e' with hless | rfl | hmore
  · have hmQ : (m : ℚ) ≤ 2 ^ 53 := by exact_mod_cast hlt.le
    have hmQ' : (2 ^ 52 : ℚ) ≤ m' := by exact_mod_cast (show 2 ^ 52 ≤ m' by omega)
    calc (m * 2 ^ e : ℚ) ≤ 2 ^ 53 * 2 ^ e := mul_le_mul_of_nonneg_right hmQ hpow.le
      _ = 2 ^ 52 * (2 ^ e * 2) := by ring
      _ ≤ m' * 2 ^ e' := mul_le_mul hmQ' (two_zpow_mul_two_le hless) (by positivity) (by positivity)
  · have hmQ : (m : ℚ) ≤ m' := by exact_mod_cast (show m ≤ m' by omega)
    exact mul_le_mul_of_nonneg_right hmQ hpow.le
  · omega

/-- **Finite numbers are in the order of what they stand for.** -/
theorem toRat_le_toRat {x y : Float} (hx : x.isFinite) (hy : y.isFinite) (h : x ≤ y) : toRat x ≤ toRat y := by
  obtain ⟨hxnan, hynan⟩ := not_isNaN_of_le h
  have hlevel := (le_iff_level hxnan hynan).1 h
  obtain ⟨s, m, e, hvalue, hplace, hlt, hleast, hnormal⟩ := exists_signed hx
  obtain ⟨s', m', e', hvalue', hplace', hlt', hleast', hnormal'⟩ := exists_signed hy
  have hnonneg : (0 : ℚ) ≤ m * 2 ^ e := by positivity
  have hnonneg' : (0 : ℚ) ≤ m' * 2 ^ e' := by positivity
  rw [hvalue, hvalue']
  rw [hplace, hplace'] at hlevel
  cases s <;> cases s' <;> simp only [signedRat, Sign.apply] at hlevel ⊢
  case positive.positive => exact value_le_of_bits hlt hlt' hleast' hnormal hnormal' (by omega)
  case positive.negative =>
    -- both are zero
    obtain rfl : m = 0 := by
      unfold bits at hlevel
      omega
    obtain rfl : m' = 0 := by
      unfold bits at hlevel
      omega
    norm_num
  case negative.positive => linarith
  case negative.negative =>
    have hle := value_le_of_bits hlt' hlt hleast hnormal' hnormal (by omega)
    linarith

theorem toRat_zero : toRat 0 = 0 := by
  have hunpack : (0 : Float).toModel.unpack = .zero .positive := rfl
  rw [toRat, hunpack, ratOf]

/-- **Multiplying by a number that is not negative keeps the order.** -/
theorem mul_le_mul_right {x y p : Float} (hx : x.isFinite) (hy : y.isFinite) (hp : p.isFinite) (hnonneg : 0 ≤ p)
    (h : x ≤ y) : x * p ≤ y * p := by
  have hzero : (0 : Float).isFinite := by decide
  have hpQ : 0 ≤ toRat p := toRat_zero ▸ toRat_le_toRat hzero hp hnonneg
  exact (rounded_mul hx hp).le (rounded_mul hy hp) (mul_le_mul_of_nonneg_right (toRat_le_toRat hx hy h) hpQ)

end Costing.Number
