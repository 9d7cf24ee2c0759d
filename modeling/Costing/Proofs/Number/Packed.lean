import Mathlib
import Costing.Number.Dyadic

/-!
# Number — bits

The bits of a finite number without a minus sign, as one natural number.

* `Canonical`: the significands and exponents of positive numbers.
* `bits`: the bits of the number with a significand and an exponent.  `toNat_pack` and `unpack_of_bits`
  say that packing gives these bits and that unpacking takes them apart again.
* `exists_canonical`: every finite number above zero has a significand and an exponent.
* `ofFloat_of_bits`: they are the ones of its `Dyadic`.
-/

namespace Costing.Number

open Float.Model (UnpackedFloat Format)
open Float.Model.UnpackedFloat (Sign unpackExponent unpackMantissa unpackSign packComponents)

/-- The significand and the exponent of a positive number in double precision. -/
structure Canonical (m : Nat) (e : Int) : Prop where
  pos : 0 < m
  lt : m < 2 ^ 53
  least : -1074 ≤ e
  greatest : e ≤ 971
  normal : 2 ^ 52 ≤ m ∨ e = -1074

/-- The bits of a positive number.  A leading bit of the significand counts the exponent up by one. -/
def bits (m : Nat) (e : Int) : Nat :=
  (e + 1074).toNat * 2 ^ 52 + m

theorem bits_lt {m : Nat} {e : Int} (hm : Canonical m e) : bits m e < 2047 * 2 ^ 52 := by
  obtain ⟨hpos, hlt, hleast, hgreatest, hnormal⟩ := hm
  unfold bits
  omega

/-! ### The fields -/

theorem toNat_unpackExponent (b : BitVec 64) :
    (@unpackExponent .binary64 b).toNat = b.toNat / 2 ^ 52 % 2 ^ 11 := by
  simp only [unpackExponent, BitVec.toNat_cast, BitVec.extractLsb_toNat, Nat.shiftRight_eq_div_pow]

theorem toNat_unpackMantissa (b : BitVec 64) :
    (@unpackMantissa .binary64 b).toNat = b.toNat % 2 ^ 52 := by
  simp [unpackMantissa, BitVec.extractLsb_toNat]

/-- A significand with its leading bit. -/
theorem toNat_leading (b : BitVec 64) :
    (1#1 ++ @unpackMantissa .binary64 b).toNat = 2 ^ 52 + (@unpackMantissa .binary64 b).toNat := by
  refine (BitVec.toNat_append _ _).trans ?_
  rw [← Nat.shiftLeft_add_eq_or_of_lt (BitVec.isLt _)]
  rfl

theorem ofBitVec_unpackSign {b : BitVec 64} (h : b.msb = false) :
    Sign.ofBitVec (@unpackSign .binary64 b) = .positive := by
  have hlt := b.isLt
  rw [BitVec.msb_eq_decide, decide_eq_false_iff_not, Nat.not_le] at h
  refine if_pos (BitVec.eq_of_toNat_eq ?_)
  simp only [unpackSign, BitVec.toNat_cast, BitVec.extractLsb_toNat, Nat.shiftRight_eq_div_pow]
  show b.toNat / 2 ^ 63 % 2 ^ 1 = 0
  omega

theorem toNat_packComponents {s : Sign} {e : BitVec 11} {m : BitVec 52} :
    (packComponents .binary64 s e m).toNat =
      s.toBitVec.toNat * 2 ^ 63 + e.toNat * 2 ^ 52 + m.toNat := by
  rw [packComponents]
  refine (BitVec.toNat_append _ _).trans ?_
  rw [← Nat.shiftLeft_add_eq_or_of_lt m.isLt, Nat.shiftLeft_eq]
  refine (congrArg (fun n => n * 2 ^ 52 + m.toNat) (BitVec.toNat_append _ _)).trans ?_
  rw [← Nat.shiftLeft_add_eq_or_of_lt e.isLt, Nat.shiftLeft_eq]
  omega

/-- The sign bit. -/
theorem isNegative_eq_msb (x : Float) : isNegative x = x.toBits.toBitVec.msb := by
  have hlt := x.toBits.toNat_lt
  rw [BitVec.msb_eq_decide, isNegative, Bool.eq_iff_iff, beq_iff_eq, decide_eq_true_iff,
    ← UInt64.toNat_inj, UInt64.toNat_shiftRight]
  simp [Nat.shiftRight_eq_div_pow]
  omega

/-! ### Packing and unpacking -/

/-- The field that an exponent is packed into. -/
theorem toNat_biased (e : Int) :
    (e + (Format.binary64.exponentBias : Nat) + (Format.binary64.mantissaBitsWithoutImplicit : Nat)).toNat =
      (e + 1075).toNat := by
  show (e + (1023 : Nat) + (52 : Nat)).toNat = _
  omega

/-- Packing a number gives its sign and its bits. -/
theorem toNat_pack_finite {s : Sign} {m : Nat} {e : Int} {h : 0 < m} (hm : Canonical m e) :
    (UnpackedFloat.pack .binary64 (.finite s m e h)).toNat = s.toBitVec.toNat * 2 ^ 63 + bits m e := by
  obtain ⟨hpos, hlt, hleast, hgreatest, hnormal⟩ := hm
  have hne : m ≠ 0 := Nat.ne_of_gt hpos
  have hprecision : Format.binary64.mantissaBits = 53 := rfl
  rw [UnpackedFloat.pack]
  dsimp only
  rw [toNat_biased, if_neg (by omega), hprecision, bits]
  split
  · next hlog =>
      have h52 : 2 ^ 52 ≤ m := (Nat.le_log2 hne).1 (by omega)
      rw [toNat_packComponents, BitVec.toNat_ofNat, BitVec.toNat_ofNat]
      show _ + (e + 1075).toNat % 2 ^ 11 * 2 ^ 52 + m % 2 ^ 52 = _
      omega
  · next hlog =>
      have h52 : m < 2 ^ 52 := by
        have h52 : m.log2 ≠ 52 := fun h => hlog (by rw [h])
        have h53 : m.log2 < 53 := (Nat.log2_lt hne).2 hlt
        exact (Nat.log2_lt hne).1 (by omega)
      rw [toNat_packComponents]
      show _ + 0 * 2 ^ 52 + m % 2 ^ 52 = _
      omega

/-- Packing a positive number gives its bits. -/
theorem toNat_pack {m : Nat} {e : Int} {h : 0 < m} (hm : Canonical m e) :
    (UnpackedFloat.pack .binary64 (.finite .positive m e h)).toNat = bits m e :=
  (toNat_pack_finite hm).trans (Nat.zero_add _)

theorem finite_congr {s : Sign} {m m' : Nat} {e e' : Int} {h : 0 < m} {h' : 0 < m'} (hm : m = m')
    (he : e = e') : UnpackedFloat.finite s m e h = .finite s m' e' h' := by
  subst hm he
  rfl

/-- Unpacking the bits of a positive number gives its significand and its exponent. -/
theorem unpack_of_bits {b : BitVec 64} {m : Nat} {e : Int} (hm : Canonical m e)
    (hb : b.toNat = bits m e) :
    UnpackedFloat.unpack .binary64 b = .finite .positive m e hm.pos := by
  have hlt := bits_lt hm
  have hmsb : b.msb = false := by
    rw [BitVec.msb_eq_decide, decide_eq_false_iff_not]
    omega
  have hexponent := toNat_unpackExponent b
  have hmantissa := toNat_unpackMantissa b
  obtain ⟨hpos, hm53, hleast, hgreatest, hnormal⟩ := hm
  rw [hb, bits] at hexponent hmantissa
  have hones : @unpackExponent .binary64 b ≠ -1#_ := by
    intro h
    have : (@unpackExponent .binary64 b).toNat = 2047 := congrArg BitVec.toNat h
    omega
  unfold UnpackedFloat.unpack
  dsimp only
  rw [ofBitVec_unpackSign hmsb, if_neg hones]
  -- the leading bit of the significand is left out of the bits, and the exponent field says so
  by_cases h52 : 2 ^ 52 ≤ m
  · have hne : @unpackExponent .binary64 b ≠ 0#_ := by
      intro h
      have : (@unpackExponent .binary64 b).toNat = 0 := congrArg BitVec.toNat h
      omega
    rw [if_neg hne]
    refine finite_congr ?_ ?_
    · rw [toNat_leading, hmantissa]
      omega
    · rw [hexponent]
      show _ - ((1023 : Nat) + (52 : Nat) : Int) = e
      omega
  · have heq : @unpackExponent .binary64 b = 0#_ := BitVec.eq_of_toNat_eq (by
      rw [hexponent]
      show _ = 0
      omega)
    have hne : @unpackMantissa .binary64 b ≠ 0#_ := by
      intro h
      have : (@unpackMantissa .binary64 b).toNat = 0 := congrArg BitVec.toNat h
      omega
    rw [if_pos heq, dif_neg hne]
    refine finite_congr (by rw [hmantissa]; omega) ?_
    rw [hexponent]
    show _ - ((1023 : Nat) + (52 : Nat) : Int) + 1 = e
    omega

theorem unpack_pack {m : Nat} {e : Int} {h : 0 < m} (hm : Canonical m e) :
    (Float.Model.pack (.finite .positive m e h)).unpack = .finite .positive m e h :=
  unpack_of_bits hm (@toNat_pack m e h hm)

/-- Numbers with the same bits are the same. -/
theorem eq_of_toBits {x y : Float} (h : x.toBits = y.toBits) : x = y := by
  obtain ⟨⟨b, hb⟩⟩ := x
  obtain ⟨⟨c, hc⟩⟩ := y
  obtain rfl : b = c := h
  rfl

/-- A number is what its significand and its exponent are packed to. -/
theorem ofModel_pack {x : Float} {m : Nat} {e : Int} {h : 0 < m} (hm : Canonical m e)
    (hx : x.toBits.toNat = bits m e) : Float.ofModel (.pack (.finite .positive m e h)) = x := by
  refine eq_of_toBits (UInt64.toNat_inj.1 ?_)
  show (UnpackedFloat.pack .binary64 (.finite .positive m e h)).toNat = x.toBits.toNat
  rw [hx, toNat_pack hm]

/-! ### The bits of a number -/

/-- A finite number without a minus sign, other than zero, has a significand and an exponent. -/
theorem exists_canonical {x : Float} (hfinite : x.isFinite) (hx : isNegative x = false)
    (hne : x.toBits.toNat ≠ 0) : ∃ m e, Canonical m e ∧ x.toBits.toNat = bits m e := by
  have hlt : x.toBits.toNat < 2 ^ 63 := by
    rw [isNegative_eq_msb, BitVec.msb_eq_decide, decide_eq_false_iff_not, Nat.not_le] at hx
    exact hx
  have hfield : x.toBits.toNat / 2 ^ 52 ≠ 2047 := by
    intro h
    have hones : @unpackExponent .binary64 x.toModel.toBits.toBitVec = -1#_ :=
      BitVec.eq_of_toNat_eq (by
        rw [toNat_unpackExponent]
        show x.toBits.toNat / 2 ^ 52 % 2 ^ 11 = 2047
        omega)
    unfold Float.isFinite Float.Model.isFinite Float.Model.unpack UnpackedFloat.unpack at hfinite
    dsimp only at hfinite
    rw [if_pos hones] at hfinite
    split at hfinite <;> cases hfinite
  unfold bits
  by_cases hsubnormal : x.toBits.toNat / 2 ^ 52 = 0
  · refine ⟨x.toBits.toNat, -1074, ⟨?_, ?_, ?_, ?_, .inr rfl⟩, ?_⟩
    all_goals omega
  · refine ⟨2 ^ 52 + x.toBits.toNat % 2 ^ 52, (x.toBits.toNat / 2 ^ 52 : Nat) - 1075,
      ⟨?_, ?_, ?_, ?_, .inl ?_⟩, ?_⟩
    all_goals omega

/-- The exact operations take the same significand and exponent. -/
theorem ofFloat_of_bits {x : Float} {m : Nat} {e : Int} (hm : Canonical m e)
    (hx : x.toBits.toNat = bits m e) :
    Dyadic.ofFloat x = ⟨m, e, decide (m = 2 ^ 52 ∧ -1074 < e)⟩ := by
  obtain ⟨hpos, hm53, hleast, hgreatest, hnormal⟩ := hm
  have hbiased : ((x.toBits >>> 52) &&& 0x7FF).toNat = x.toBits.toNat / 2 ^ 52 % 2 ^ 11 := by
    rw [UInt64.toNat_and, UInt64.toNat_shiftRight]
    exact (Nat.and_two_pow_sub_one_eq_mod _ 11).trans (by rw [Nat.shiftRight_eq_div_pow]; rfl)
  have hfraction : (x.toBits &&& 0xFFFFFFFFFFFFF).toNat = x.toBits.toNat % 2 ^ 52 := by
    rw [UInt64.toNat_and]
    exact Nat.and_two_pow_sub_one_eq_mod _ 52
  unfold Dyadic.ofFloat
  rw [hbiased, hfraction, hx, bits]
  dsimp only
  by_cases h52 : 2 ^ 52 ≤ m
  · have hfield : ((e + 1074).toNat * 2 ^ 52 + m) / 2 ^ 52 % 2 ^ 11 = (e + 1075).toNat := by omega
    have hrest : ((e + 1074).toNat * 2 ^ 52 + m) % 2 ^ 52 = m - 2 ^ 52 := by omega
    rw [hfield, hrest, if_neg (by rw [beq_iff_eq]; omega)]
    have hnarrow : ((m - 2 ^ 52 == 0) && decide ((e + 1075).toNat > 1)) =
        decide (m = 2 ^ 52 ∧ -1074 < e) := by
      rw [Bool.eq_iff_iff, Bool.and_eq_true, beq_iff_eq, decide_eq_true_iff, decide_eq_true_iff]
      omega
    have hsignificand : 1 <<< 52 + (m - 2 ^ 52) = m := by rw [Nat.one_shiftLeft]; omega
    have hexponent : ((e + 1075).toNat : Int) - 1075 = e := by omega
    rw [hnarrow, hsignificand, hexponent]
  · have hfield : ((e + 1074).toNat * 2 ^ 52 + m) / 2 ^ 52 % 2 ^ 11 = 0 := by omega
    have hrest : ((e + 1074).toNat * 2 ^ 52 + m) % 2 ^ 52 = m := by omega
    have hnarrow : decide (m = 2 ^ 52 ∧ -1074 < e) = false := decide_eq_false (by omega)
    have hexponent : e = -1074 := by omega
    rw [hfield, hrest, if_pos (beq_self_eq_true 0), hnarrow, hexponent]

end Costing.Number
