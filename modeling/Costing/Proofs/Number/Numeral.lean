import Costing.Number.Literal
import Costing.Proofs.Number.Packed
import Costing.Value.Coercion

/-!
# Number — numerals

What formula literals are as numbers and as texts.

* `isNegative_of_read?`: a text without a minus sign reads as a number without one, zero and NaN
  included.
* `IsNumeral`: digits with at most one point after the first of them.
* `numberText_isNumeral`: the text of a finite number without a minus sign is a numeral.
-/

namespace Costing.Number

open Float.Model (UnpackedFloat Format)
open Float.Model.UnpackedFloat (Sign)

/-! ### The sign -/

/-- No minus sign; NaN has no sign. -/
def Unsigned : UnpackedFloat → Prop
  | .notANumber => True
  | .infinity s | .zero s | .finite s _ _ _ => s = .positive

theorem msb_packComponents {sign : Sign} {exponent mantissa} :
    (UnpackedFloat.packComponents .binary64 sign exponent mantissa).msb = sign.toBitVec.msb := by
  refine BitVec.msb_append.trans ?_
  rw [if_neg (by decide)]
  refine BitVec.msb_append.trans ?_
  rw [if_neg (by decide)]

theorem isNegative_pack {u : UnpackedFloat} (h : Unsigned u) :
    isNegative (.ofModel (.pack u)) = false := by
  rw [isNegative_eq_msb]
  show (UnpackedFloat.pack .binary64 u).msb = false
  unfold UnpackedFloat.pack UnpackedFloat.packedNaN UnpackedFloat.packedInfinity UnpackedFloat.packedZero
  cases u with
  | notANumber => exact msb_packComponents
  | infinity s | zero s => cases h; exact msb_packComponents
  | finite s m e hm =>
      cases h
      dsimp only
      split
      · exact msb_packComponents
      · split <;> exact msb_packComponents

theorem unsigned_unpack {b : BitVec 64} (h : b.msb = false) :
    Unsigned (UnpackedFloat.unpack .binary64 b) := by
  unfold UnpackedFloat.unpack
  dsimp only
  rw [ofBitVec_unpackSign h]
  split
  · split <;> trivial
  · split
    · split <;> rfl
    · rfl

theorem unsigned_of_isNegative {x : Float} (h : isNegative x = false) : Unsigned x.toModel.unpack :=
  unsigned_unpack (isNegative_eq_msb x ▸ h)

theorem unsigned_roundWithAccuracy {spec : Format} {m : Nat} {e : Int} {a : UnpackedFloat.Accuracy} :
    Unsigned (UnpackedFloat.roundWithAccuracy spec .positive m e a) := by
  unfold UnpackedFloat.roundWithAccuracy
  dsimp only
  split <;> rfl

theorem Unsigned.mul {spec : Format} {a b : UnpackedFloat} (ha : Unsigned a) (hb : Unsigned b) :
    Unsigned (a.mul spec b) := by
  unfold UnpackedFloat.mul
  split <;> first | trivial | (cases ha; cases hb; first | rfl | exact unsigned_roundWithAccuracy)

theorem Unsigned.div {spec : Format} {a b : UnpackedFloat} (ha : Unsigned a) (hb : Unsigned b) :
    Unsigned (a.div spec b) := by
  unfold UnpackedFloat.div
  split <;> first | trivial | (cases ha; cases hb; first | rfl | exact unsigned_roundWithAccuracy)

/-- A product of numbers without a minus sign has none. -/
theorem isNegative_mul {x y : Float} (hx : isNegative x = false) (hy : isNegative y = false) :
    isNegative (x * y) = false :=
  isNegative_pack ((unsigned_of_isNegative hx).mul (unsigned_of_isNegative hy))

/-- A quotient of numbers without a minus sign has none. -/
theorem isNegative_div {x y : Float} (hx : isNegative x = false) (hy : isNegative y = false) :
    isNegative (x / y) = false :=
  isNegative_pack ((unsigned_of_isNegative hx).div (unsigned_of_isNegative hy))

theorem isNegative_toFloat (n : UInt64) : isNegative n.toFloat = false := by
  refine isNegative_pack ?_
  unfold UnpackedFloat.ofUInt64 UnpackedFloat.ofNat UnpackedFloat.ofInt UnpackedFloat.normalize
  split
  · next h => exact absurd (Int.compare_eq_lt.1 h) (Int.not_lt.2 (Int.natCast_nonneg _))
  · rfl
  · exact unsigned_roundWithAccuracy

theorem isNegative_of_mem_powersOfTen {x : Float} (h : x ∈ Float.exactlyRepresentablePowersOfTen) :
    isNegative x = false := by
  obtain ⟨b, hb, rfl⟩ : ∃ b : UInt64, b.toBitVec.msb = false ∧ x = Float.ofBits b := by
    simp only [Float.exactlyRepresentablePowersOfTen, List.mem_toArray, List.mem_cons,
      List.not_mem_nil, or_false] at h
    rcases h with h | h | h | h | h | h | h | h | h | h | h | h | h | h | h | h | h | h | h | h | h | h | h <;>
      exact ⟨_, by decide, h⟩
  exact isNegative_pack (unsigned_unpack hb)

theorem unsigned_ofScientific (spec : Format) (m : Nat) (e : Int) :
    Unsigned (UnpackedFloat.ofScientific spec m e) := by
  have hfinite (n : Nat) (i : Int) (hn : 0 < n) : Unsigned (.finite .positive n i hn) := rfl
  unfold UnpackedFloat.ofScientific
  split
  · rfl
  split
  · rfl
  split
  · rfl
  split
  · exact (hfinite ..).mul (hfinite ..)
  · exact (hfinite ..).div (hfinite ..)

theorem isNegative_ofScientific (m : Nat) (s : Bool) (e : Nat) :
    isNegative (Float.ofScientific m s e) = false := by
  unfold Float.ofScientific
  split
  · dsimp only
    split
    · exact isNegative_div (isNegative_toFloat _) (isNegative_of_mem_powersOfTen (Array.getElem_mem _))
    · exact isNegative_mul (isNegative_toFloat _) (isNegative_of_mem_powersOfTen (Array.getElem_mem _))
  · exact isNegative_pack (unsigned_ofScientific ..)

theorem isNegative_nearest (digits : Nat) (exponent : Int) :
    isNegative (nearest digits exponent) = false := by
  unfold nearest
  dsimp only
  split
  · exact isNegative_ofScientific 0 false 0
  · split
    · decide
    · exact isNegative_ofScientific ..

theorem isNegative_of_readMagnitude? {cs : List Char} {x : Float} (h : readMagnitude? cs = some x) :
    isNegative x = false := by
  unfold readMagnitude? at h
  dsimp only at h
  split at h
  all_goals
    split at h
    · cases h
    · obtain ⟨exponent, -, rfl⟩ := Option.map_eq_some_iff.1 h
      exact isNegative_nearest ..

/-- **Reading keeps the sign**: a text without a minus sign is no negative number. -/
theorem isNegative_of_read? {s : String} {x : Float} (hs : (signed s.toList).1 = false)
    (h : read? s = some x) : isNegative x = false := by
  unfold read? readDecimal? at h
  dsimp only at h
  rw [hs] at h
  simp only [Bool.false_eq_true, if_false] at h
  split at h
  · next y hnamed =>
      cases h
      split at hnamed
      · cases hnamed; decide
      · split at hnamed <;> cases hnamed
        decide
  · obtain ⟨y, hy, rfl⟩ := Option.map_eq_some_iff.1 h
    exact isNegative_of_readMagnitude? hy

/-! ### The text -/

/-- Digits with at most one point, a digit first. -/
def IsNumeral (cs : List Char) : Prop :=
  ∃ whole, whole ≠ [] ∧ (∀ c ∈ whole, c.isDigit) ∧
    (cs = whole ∨ ∃ fraction, cs = whole ++ '.' :: fraction ∧ ∀ c ∈ fraction, c.isDigit)

theorem IsNumeral.of_digits {cs : List Char} (hne : cs ≠ []) (h : ∀ c ∈ cs, c.isDigit) : IsNumeral cs :=
  ⟨cs, hne, h, .inl rfl⟩

theorem IsNumeral.exists_cons {cs : List Char} (h : IsNumeral cs) : ∃ c ds, cs = c :: ds ∧ c.isDigit := by
  obtain ⟨whole, hne, hwhole, hcs⟩ := h
  obtain ⟨c, ws, rfl⟩ := List.exists_cons_of_ne_nil hne
  obtain rfl | ⟨fraction, rfl, -⟩ := hcs <;> exact ⟨c, _, rfl, hwhole c List.mem_cons_self⟩

theorem isDigit_of_mem_zeros {n : Nat} {c : Char} (h : c ∈ zeros n) : c.isDigit :=
  (List.eq_of_mem_replicate h) ▸ rfl

theorem positionalChars_isNumeral {digits : List Char} (exponent : Int) (hne : digits ≠ [])
    (h : ∀ c ∈ digits, c.isDigit) : IsNumeral (positionalChars false digits exponent) := by
  unfold positionalChars
  simp only [Bool.false_eq_true, if_false, List.append_nil]
  split
  · refine .of_digits (List.append_ne_nil_of_left_ne_nil hne _) fun c hc => ?_
    obtain hc | hc := List.mem_append.1 hc
    · exact h c hc
    · exact isDigit_of_mem_zeros hc
  · split
    · next hplaces =>
        refine ⟨_, ?_, fun c hc => h c (List.mem_of_mem_take hc),
          .inr ⟨_, rfl, fun c hc => h c (List.mem_of_mem_drop hc)⟩⟩
        rw [← List.length_pos_iff, List.length_take]
        omega
    · refine ⟨['0'], by simp, by simp, .inr ⟨_, rfl, fun c hc => ?_⟩⟩
      obtain hc | hc := List.mem_append.1 hc
      · exact isDigit_of_mem_zeros hc
      · exact h c hc

theorem isDigit_of_mem_toDigits {n : Nat} {c : Char} (h : c ∈ Nat.toDigits 10 n) : c.isDigit :=
  Nat.isDigit_of_mem_toDigits (by decide) (by decide) h

theorem not_isNaN_and_not_isInf {x : Float} (h : x.isFinite) : x.isNaN = false ∧ x.isInf = false := by
  unfold Float.isFinite Float.Model.isFinite at h
  unfold Float.isNaN Float.Model.isNaN Float.isInf Float.Model.isInf
  cases hx : x.toModel.unpack with
  | notANumber | infinity s => rw [hx] at h; cases h
  | zero s | finite s m e hm => exact ⟨rfl, rfl⟩

/-- The text of a finite number without a minus sign is a numeral. -/
theorem numberText_isNumeral {x : Float} (hfinite : x.isFinite) (hx : isNegative x = false) :
    IsNumeral (Value.numberText x).toList := by
  have hdigits (n : Nat) : IsNumeral (Nat.toDigits 10 n) :=
    .of_digits Nat.toDigits_ne_nil fun _ => isDigit_of_mem_toDigits
  obtain ⟨hnan, hinf⟩ := not_isNaN_and_not_isInf hfinite
  unfold Value.numberText
  rw [hnan, hinf]
  simp only [Bool.false_eq_true, if_false]
  split
  · rw [truncate, hx]
    show IsNumeral (toString (Int.ofNat _)).toList
    rw [show toString (Int.ofNat (Dyadic.ofFloat x).whole) = Nat.repr _ from rfl, Nat.toList_repr]
    exact hdigits _
  · rw [Layout.render, hx]
    simp only [Bool.false_eq_true, if_false, String.toList_ofList]
    exact positionalChars_isNumeral _ Nat.toDigits_ne_nil fun _ => isDigit_of_mem_toDigits

end Costing.Number
