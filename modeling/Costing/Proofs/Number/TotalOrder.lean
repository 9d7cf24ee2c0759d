import Costing.Proofs.Number.Range

/-!
# Number — the total order

`rank` puts all numbers in one order, by their bits.

* `rank_eq`: the rank is made of the sign and of the other bits.
* `rank_injective`: **numbers of one rank are the same.**
* `place`: the rank as the unpacked number tells it.
* `rank_eq_place`: **that is the rank of a number.**
* `bits_lt_bits`: magnitudes are in the order of their bits.
-/

namespace Costing.Number

open Float.Model (UnpackedFloat Format)
open Float.Model.UnpackedFloat (Sign unpackExponent unpackMantissa unpackSign)

/-- The place of a magnitude with a sign: those below zero come first, the largest first of all. -/
def signedPlace : Sign → Nat → Int
  | .positive, magnitude => magnitude
  | .negative, magnitude => -magnitude - 1

theorem signedPlace_inj {s s' : Sign} {n n' : Nat} (h : signedPlace s n = signedPlace s' n') : s = s' ∧ n = n' := by
  cases s <;> cases s' <;> simp only [signedPlace] at h
  · exact ⟨rfl, by omega⟩
  · omega
  · omega
  · exact ⟨rfl, by omega⟩

/-! ### Bits -/

/-- The sign of some bits. -/
def signOf (b : BitVec 64) : Sign :=
  Sign.ofBitVec (@unpackSign .binary64 b)

theorem signOf_eq (b : BitVec 64) : signOf b = if 2 ^ 63 ≤ b.toNat then .negative else .positive := by
  have hlt := b.isLt
  have hsign : (@unpackSign .binary64 b).toNat = b.toNat / 2 ^ 63 % 2 ^ 1 := by
    simp only [unpackSign, BitVec.toNat_cast, BitVec.extractLsb_toNat, Nat.shiftRight_eq_div_pow]
  have hzero : @unpackSign .binary64 b = 0#1 ↔ ¬ 2 ^ 63 ≤ b.toNat := by
    rw [← BitVec.toNat_inj, hsign]
    show _ = 0 ↔ _
    omega
  rw [signOf, Sign.ofBitVec]
  split
  · next h => rw [if_neg (hzero.1 h)]
  · next h => rw [if_pos (not_not.1 (mt hzero.2 h))]

theorem signOf_eq_negative_iff {b : BitVec 64} : signOf b = .negative ↔ 2 ^ 63 ≤ b.toNat := by
  rw [signOf_eq]
  split
  · next h => exact iff_of_true rfl h
  · next h => exact iff_of_false nofun h

/-- **The rank** of a number is the place of its bits but the first one, which is the sign. -/
theorem rank_eq (x : Float) : rank x = signedPlace (signOf x.toBits.toBitVec) (x.toBits.toNat % 2 ^ 63) := by
  have hmagnitude : (x.toBits &&& 0x7FFFFFFFFFFFFFFF).toNat = x.toBits.toNat % 2 ^ 63 := by
    rw [UInt64.toNat_and]
    exact Nat.and_two_pow_sub_one_eq_mod _ 63
  have hnegative : isNegative x = decide (2 ^ 63 ≤ x.toBits.toBitVec.toNat) := by
    rw [isNegative_eq_msb, BitVec.msb_eq_decide]
  rw [rank, hnegative, hmagnitude, signOf_eq]
  by_cases h : 2 ^ 63 ≤ x.toBits.toBitVec.toNat
  · rw [if_pos h, if_pos (decide_eq_true h)]
    rfl
  · have hsmall : x.toBits.toNat % 2 ^ 63 = x.toBits.toNat := Nat.mod_eq_of_lt (Nat.not_le.1 h)
    rw [if_neg h, if_neg (by simpa using h), hsmall]
    rfl

/-- **Numbers of one rank are the same.** -/
theorem rank_injective : Function.Injective rank := by
  intro x y h
  have hx := x.toBits.toNat_lt
  have hy := y.toBits.toNat_lt
  rw [rank_eq, rank_eq] at h
  obtain ⟨hsign, hmagnitude⟩ := signedPlace_inj h
  have hsame : 2 ^ 63 ≤ x.toBits.toNat ↔ 2 ^ 63 ≤ y.toBits.toNat :=
    signOf_eq_negative_iff.symm.trans (hsign ▸ signOf_eq_negative_iff)
  refine eq_of_toBits (UInt64.toNat_inj.1 ?_)
  omega

/-! ### The order of numbers -/

/-- The rank of an unpacked number. -/
def place : UnpackedFloat → Int
  | .finite s m e _ => signedPlace s (bits m e)
  | .zero s => signedPlace s 0
  | .infinity s => signedPlace s (2047 * 2 ^ 52)
  | .notANumber => signedPlace .positive (2047 * 2 ^ 52 + 2 ^ 51)

theorem place_unpack {b : BitVec 64} (h : (UnpackedFloat.unpack .binary64 b).isNaN = false) :
    place (UnpackedFloat.unpack .binary64 b) = signedPlace (signOf b) (b.toNat % 2 ^ 63) := by
  have hexponent := toNat_unpackExponent b
  have hmantissa := toNat_unpackMantissa b
  unfold UnpackedFloat.unpack at h ⊢
  dsimp only at h ⊢
  split at h
  · next hones =>
      rw [hones] at hexponent
      change 2047 = _ at hexponent
      rw [if_pos hones]
      split at h
      · next hzero =>
          rw [hzero] at hmantissa
          change 0 = _ at hmantissa
          rw [if_pos hzero]
          exact congrArg (signedPlace (signOf b)) (by omega)
      · cases h
  · next hones =>
      rw [if_neg hones]
      split
      · next hzero =>
          rw [hzero] at hexponent
          change 0 = _ at hexponent
          split
          · next hnone =>
              rw [hnone] at hmantissa
              change 0 = _ at hmantissa
              exact congrArg (signedPlace (signOf b)) (by omega)
          · refine congrArg (signedPlace (signOf b)) ?_
            rw [bits, hzero]
            show (((0 : Nat) : Int) - ((1023 : Nat) + (52 : Nat)) + 1 + 1074).toNat * 2 ^ 52 + _ = _
            omega
      · next hnormal =>
          have hne : (@unpackExponent .binary64 b).toNat ≠ 0 := fun h => hnormal (BitVec.eq_of_toNat_eq h)
          refine congrArg (signedPlace (signOf b)) ?_
          rw [bits, toNat_leading]
          show (((@unpackExponent .binary64 b).toNat : Int) - ((1023 : Nat) + (52 : Nat)) + 1074).toNat * 2 ^ 52 + _ = _
          omega

theorem rank_eq_place {x : Float} (h : x.isNaN = false) : rank x = place x.toModel.unpack :=
  (rank_eq x).trans (place_unpack h).symm

/-- Magnitudes are in the order of their bits. -/
theorem bits_lt_bits {m m' : Nat} {e e' : Int} (hm : Canonical m e) (hm' : Canonical m' e')
    (h : (compare e e').then (compare m m') = .lt) : bits m e < bits m' e' := by
  obtain ⟨-, hlt, hleast, -, -⟩ := hm
  obtain ⟨-, -, -, -, hnormal⟩ := hm'
  have hless : e < e' ∨ e = e' ∧ m < m' := by
    simpa only [Ordering.then_eq_lt, compare_lt_iff_lt, compare_eq_iff_eq] using h
  unfold bits
  omega

theorem bits_pos {m : Nat} {e : Int} (hm : Canonical m e) : 0 < bits m e :=
  Nat.add_pos_right _ hm.pos

theorem compare_of_lt {x y : Float} (h : x < y) : x.toModel.unpack.compare y.toModel.unpack = some .lt :=
  beq_iff_eq.1 (of_decide_eq_true h)

theorem not_isNaN_of_compare {u v : UnpackedFloat} {o : Ordering} (h : u.compare v = some o) :
    u.isNaN = false ∧ v.isNaN = false := by
  cases u <;> cases v <;> first | exact ⟨rfl, rfl⟩ | cases h

/-- What is less, or has something less, is a number. -/
theorem not_isNaN_of_lt {x y : Float} (h : x < y) : x.isNaN = false ∧ y.isNaN = false :=
  not_isNaN_of_compare (compare_of_lt h)

end Costing.Number
