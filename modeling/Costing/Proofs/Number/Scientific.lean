import Costing.Number.Literal
import Costing.Proofs.Number.Rounding

/-!
# Number — scientific notation

Digits with a power of ten are read as the number that they are rounded to.

* `unpack_toFloat`, `unpack_powerOfTen`: the factors and divisors of few digits are exact.
* `ofScientific_eq`: so a product or a quotient of them is rounded once, and so are all other decimals.
* `nearest_of_roundsTo`: no decimal that is rounded to a number is taken for zero or infinity because of
  its size.
-/

namespace Costing.Number

open Float (exactlyRepresentablePowersOfTen)
open Float.Model (UnpackedFloat Format totalExponent)

/-! ### Exact factors -/

/-- Natural numbers below `2 ^ 53`, shifted to fifty-three bits. -/
theorem canonical_shift {n : Nat} (hpos : 0 < n) (hlt : n < 2 ^ 53) :
    Canonical (n * 2 ^ (52 - n.log2)) (-(52 - n.log2 : Nat)) := by
  have hlog : n.log2 < 53 := (Nat.log2_lt hpos.ne').2 hlt
  have hlow : 2 ^ n.log2 ≤ n := Nat.log2_self_le hpos.ne'
  have hhigh : n < 2 ^ (n.log2 + 1) := Nat.lt_log2_self
  have h52 : 2 ^ n.log2 * 2 ^ (52 - n.log2) = 2 ^ 52 := by
    rw [← pow_add]
    congr 1
    omega
  have h53 : 2 ^ (n.log2 + 1) * 2 ^ (52 - n.log2) = 2 ^ 53 := by
    rw [← pow_add]
    congr 1
    omega
  refine ⟨by positivity, ?_, by omega, by omega, .inl ?_⟩
  · rw [← h53]
    exact Nat.mul_lt_mul_of_pos_right hhigh (by positivity)
  · rw [← h52]
    exact Nat.mul_le_mul_right _ hlow

theorem value_shift (n i : Nat) : ((n * 2 ^ i : Nat) * 2 ^ (-(i : Int)) : ℚ) = n := by
  push_cast
  rw [zpow_neg, zpow_natCast, mul_inv_cancel_right₀ (by positivity)]

/-- Natural numbers below `2 ^ 53` are converted exactly. -/
theorem unpack_toFloat {n : Nat} (hpos : 0 < n) (hlt : n < 2 ^ 53) :
    n.toUInt64.toFloat.toModel.unpack =
      .finite .positive (n * 2 ^ (52 - n.log2)) (-(52 - n.log2 : Nat)) (canonical_shift hpos hlt).pos := by
  have hcanonical := canonical_shift hpos hlt
  have hlog : n.log2 < 53 := (Nat.log2_lt hpos.ne').2 hlt
  have htarget : Format.binary64.targetExponent (totalExponent n 0) = -(52 - n.log2 : Nat) := by
    rw [targetExponent_eq, totalExponent]
    omega
  have hbits : 52 ≤ (n * 2 ^ (52 - n.log2)).log2 :=
    (Nat.le_log2 hcanonical.pos.ne').2 (hcanonical.normal.resolve_right (by omega))
  have hround : UnpackedFloat.round .binary64 .positive n 0 =
      .finite .positive (n * 2 ^ (52 - n.log2)) (-(52 - n.log2 : Nat)) hcanonical.pos := by
    unfold UnpackedFloat.round UnpackedFloat.decreaseExponent
    dsimp only
    rw [htarget, Nat.shiftLeft_eq]
    simp only [zero_sub, neg_neg, Int.toNat_natCast]
    refine @roundWithAccuracy_of_roundsTo .positive .exact _ _ _ _ _ _ rfl rfl ?_ hcanonical
      roundsTo_self
    rw [targetExponent_eq, totalExponent]
    omega
  have hn : n.toUInt64.toNat = n := by
    rw [UInt64.toNat_ofNat']
    omega
  have hconvert : UnpackedFloat.ofUInt64 .binary64 n.toUInt64 =
      UnpackedFloat.round .binary64 .positive n 0 := by
    unfold UnpackedFloat.ofUInt64 UnpackedFloat.ofNat UnpackedFloat.ofInt UnpackedFloat.normalize
    rw [hn, Int.compare_eq_gt.2 (by omega)]
    rfl
  show (Float.Model.pack (UnpackedFloat.ofUInt64 .binary64 n.toUInt64)).unpack = _
  rw [hconvert, hround, unpack_pack hcanonical]

/-- The significand of a power of ten in double precision. -/
def powerSignificand (k : Nat) : Nat :=
  10 ^ k * 2 ^ (52 - (10 ^ k).log2) / 2 ^ ((10 ^ k).log2 - 52)

/-- The exponent of a power of ten in double precision. -/
def powerExponent (k : Nat) : Int :=
  ((10 ^ k).log2 : Int) - 52

/-- The table of powers of ten is exact. -/
theorem powersOfTen_exact (k : Fin exactlyRepresentablePowersOfTen.size) :
    exactlyRepresentablePowersOfTen[k].toBits.toNat = bits (powerSignificand k) (powerExponent k) ∧
      2 ^ 52 ≤ powerSignificand k ∧ powerSignificand k < 2 ^ 53 ∧
      -1074 ≤ powerExponent k ∧ powerExponent k ≤ 971 ∧
      powerSignificand k * 2 ^ (powerExponent k).toNat =
        10 ^ k.val * 2 ^ (-powerExponent k).toNat := by
  revert k
  decide +kernel

theorem unpack_powerOfTen {k : Nat} (hk : k < exactlyRepresentablePowersOfTen.size) :
    ∃ p q, ∃ hp : 0 < p,
      exactlyRepresentablePowersOfTen[k].toModel.unpack = .finite .positive p q hp ∧
        2 ^ 52 ≤ p ∧ (p * 2 ^ q : ℚ) = 10 ^ k := by
  obtain ⟨hbits, hlow, hhigh, hleast, hgreatest, hvalue⟩ := powersOfTen_exact ⟨k, hk⟩
  dsimp only at hbits hlow hhigh hleast hgreatest hvalue
  have hpos : 0 < powerSignificand k := lt_of_lt_of_le (by norm_num) hlow
  have hcanonical : Canonical (powerSignificand k) (powerExponent k) :=
    ⟨hpos, hhigh, hleast, hgreatest, .inl hlow⟩
  refine ⟨powerSignificand k, powerExponent k, hpos, unpack_of_bits hcanonical hbits, hlow, ?_⟩
  have hvalueQ : (powerSignificand k * 2 ^ (powerExponent k).toNat : ℚ) =
      10 ^ k * 2 ^ (-powerExponent k).toNat := by exact_mod_cast hvalue
  rw [← zpow_mul_pow_toNat two_ne_zero, ← mul_assoc] at hvalueQ
  exact mul_right_cancel₀ (by positivity) hvalueQ

/-! ### Reading -/

section OfScientific

variable {x : Float} {m n : Nat} {e k : Int}

/-- Few digits are multiplied with or divided by a power of ten of the table. -/
theorem ofScientific_fast (hm : Canonical m e) (hx : x.toBits.toNat = bits m e) (hn : 0 < n)
    (h : RoundsTo (n * 10 ^ k) m e) (hn53 : n < 2 ^ 53)
    (hk : k.natAbs < exactlyRepresentablePowersOfTen.size) :
    (if k < 0 then n.toUInt64.toFloat / exactlyRepresentablePowersOfTen[k.natAbs]
      else n.toUInt64.toFloat * exactlyRepresentablePowersOfTen[k.natAbs]) = x := by
  obtain ⟨p, q, hp, hpower, hlow, hvalue⟩ := unpack_powerOfTen hk
  have hcanonical := canonical_shift hn hn53
  have hnat := unpack_toFloat hn hn53
  split
  · next hneg =>
      have hscale : (10 : ℚ) ^ k = (10 ^ k.natAbs)⁻¹ := by
        rw [← zpow_natCast, ← zpow_neg]
        congr 1
        omega
      rw [← value_shift n (52 - n.log2), hscale, ← hvalue, ← div_eq_mul_inv] at h
      show Float.ofModel (.pack (UnpackedFloat.div .binary64 _ _)) = x
      rw [hnat, hpower, div_of_roundsTo hm h]
      exact ofModel_pack hm hx
  · next hneg =>
      have hscale : (10 : ℚ) ^ k = 10 ^ k.natAbs := by
        rw [← zpow_natCast]
        congr 1
        omega
      rw [← value_shift n (52 - n.log2), hscale, ← hvalue] at h
      show Float.ofModel (.pack (UnpackedFloat.mul .binary64 _ _)) = x
      have hbits := hlow.trans (Nat.le_mul_of_pos_left p hcanonical.pos)
      rw [hnat, hpower, mul_of_roundsTo hbits hm h]
      exact ofModel_pack hm hx

/-- All other decimals are multiplied out or divided as natural numbers. -/
theorem ofScientific_slow (hm : Canonical m e) (hn : 0 < n) (h : RoundsTo (n * 10 ^ k) m e)
    (hlarge : k ≤ 2 ^ 11) (hsmall : -(2 ^ 11 + n.log2) ≤ k) :
    UnpackedFloat.ofScientific .binary64 n k = .finite .positive m e hm.pos := by
  have hbits : Format.binary64.exponentBits = 11 := rfl
  unfold UnpackedFloat.ofScientific
  rw [dif_neg hn.ne', hbits, if_neg (by omega), if_neg (by omega)]
  split
  · next hk =>
      have hscale : (10 : ℚ) ^ k = (10 ^ k.toNat : Nat) * 2 ^ (0 : Int) := by
        rw [zpow_zero, mul_one, Nat.cast_pow, Nat.cast_ofNat, ← zpow_natCast, Int.toNat_of_nonneg hk]
      rw [← value_shift n 53, hscale, ← Nat.shiftLeft_eq] at h
      refine mul_of_roundsTo ?_ hm h
      have hshift : n <<< 53 = n * 2 ^ 53 := Nat.shiftLeft_eq n 53
      have hpower : 0 < 10 ^ k.toNat := by positivity
      calc 2 ^ 52 ≤ n <<< 53 := by omega
        _ ≤ n <<< 53 * 10 ^ k.toNat := Nat.le_mul_of_pos_right _ hpower
  · next hk =>
      have hscale : (10 : ℚ) ^ k = ((10 ^ (-k).toNat : Nat) : ℚ)⁻¹ := by
        rw [Nat.cast_pow, Nat.cast_ofNat, ← zpow_natCast, ← zpow_neg]
        congr 1
        omega
      refine div_of_roundsTo hm ?_
      rwa [zpow_zero, mul_one, mul_one, div_eq_mul_inv, ← hscale]

/-- **Scientific notation is read correctly**: a decimal that is rounded to a number is read as it. -/
theorem ofScientific_eq (hm : Canonical m e) (hx : x.toBits.toNat = bits m e) (hn : 0 < n)
    (h : RoundsTo (n * 10 ^ k) m e) (hlarge : k ≤ 2 ^ 11) (hsmall : -(2 ^ 11 + n.log2) ≤ k) :
    Float.ofScientific n (k < 0) k.natAbs = x := by
  unfold Float.ofScientific
  simp only [decide_eq_true_eq]
  split
  · next hfast => exact ofScientific_fast hm hx hn h hfast.1 (Nat.lt_succ_of_le hfast.2)
  · have hk : (if k < 0 then Int.negOfNat k.natAbs else Int.ofNat k.natAbs) = k := by
      rw [Int.negOfNat_eq]
      split <;> simp only [Int.ofNat_eq_natCast] <;> omega
    rw [hk]
    show Float.ofModel (.pack (UnpackedFloat.ofScientific .binary64 n k)) = x
    rw [ofScientific_slow hm hn h hlarge hsmall]
    exact ofModel_pack hm hx

theorem ten_zpow_lt_least : (10 : ℚ) ^ (-331 : Int) < 2 ^ (-1075 : Int) := by
  have h : 2 ^ 1075 < 10 ^ 331 := by decide +kernel
  rw [zpow_neg, zpow_neg]
  exact inv_strictAnti₀ (by positivity) (by exact_mod_cast h)

theorem greatest_lt_ten_zpow : (2 : ℚ) ^ (1024 : Int) < 10 ^ (309 : Int) := by
  have h : 2 ^ 1024 < 10 ^ 309 := by decide +kernel
  exact_mod_cast h

/-- **Decimals are read correctly**, those whose size is settled by the count of digits included. -/
theorem nearest_of_roundsTo (hm : Canonical m e) (hx : x.toBits.toNat = bits m e)
    (h : RoundsTo (n * 10 ^ k) m e) : nearest n k = x := by
  have hbelow := h.two_zpow_le hm
  have habove : (n * 10 ^ k : ℚ) < 2 ^ (1024 : Int) := by
    have hgreatest : ((53 : Nat) : Int) + e ≤ 1024 := by have := hm.greatest; omega
    exact (h.lt_two_zpow hm).trans_le (zpow_le_zpow_right₀ one_le_two hgreatest)
  have hten : (0 : ℚ) < 10 ^ k := by positivity
  have hn : 0 < n := by
    rw [Nat.pos_iff_ne_zero]
    rintro rfl
    rw [Nat.cast_zero, zero_mul] at hbelow
    exact absurd hbelow (not_le.2 (by positivity))
  -- the count of digits is the size of the digits, from below and from above
  obtain ⟨l, hl⟩ : ∃ l, (Nat.toDigits 10 n).length = l + 1 :=
    Nat.exists_eq_add_one_of_ne_zero Nat.length_toDigits_pos.ne'
  have hhigh : n < 10 ^ (l + 1) := (Nat.length_toDigits_le_iff (by decide) l.succ_pos).1 hl.le
  have hlow : 10 ^ l ≤ n := by
    cases l with
    | zero => exact hn
    | succ l =>
        rw [← not_lt, ← Nat.length_toDigits_le_iff (by decide) l.succ_pos]
        omega
  have hlog : l ≤ n.log2 :=
    (Nat.le_log2 hn.ne').2 (le_trans (Nat.pow_le_pow_left (by decide) l) hlow)
  have hleast : -331 < (l + 1 : Nat) + k := by
    have hsize : (n * 10 ^ k : ℚ) < 10 ^ (((l + 1 : Nat) : Int) + k) := by
      rw [zpow_add₀ (by norm_num), zpow_natCast]
      exact mul_lt_mul_of_pos_right (by exact_mod_cast hhigh) hten
    exact (zpow_lt_zpow_iff_right₀ (by norm_num)).1 (ten_zpow_lt_least.trans (hbelow.trans_lt hsize))
  have hgreatest : l + k < 309 := by
    have hsize : (10 ^ ((l : Int) + k) : ℚ) ≤ n * 10 ^ k := by
      rw [zpow_add₀ (by norm_num), zpow_natCast]
      exact mul_le_mul_of_nonneg_right (by exact_mod_cast hlow) hten.le
    exact (zpow_lt_zpow_iff_right₀ (by norm_num)).1
      (hsize.trans_lt (habove.trans greatest_lt_ten_zpow))
  unfold nearest
  rw [hl, if_neg, if_neg (by omega)]
  · exact ofScientific_eq hm hx hn h (by omega) (by omega)
  · rw [Bool.or_eq_true, beq_iff_eq, decide_eq_true_eq]
    omega

end OfScientific

end Costing.Number
