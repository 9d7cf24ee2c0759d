import Costing.Proofs.Number.Numeral
import Costing.Proofs.Number.Scientific
import Costing.Proofs.Number.Shortest

/-!
# Number — reading back

The text of a number that formulas can write reads back as the number.

* `read?_of_isNumeral`: numerals are read as magnitudes, not as signs or names.
* `Positional`, `exists_positional`: positional notation is digits with a point among them or not.
* `readMagnitude?_positionalChars`: positional notation is read as the decimal that it writes.
* `whole_of_isWhole`: whole numbers are their integer part.
* `read?_numberText`: so the text of a finite number without a minus sign reads back as the number.
-/

namespace Costing.Number

/-! ### Reading digits -/

theorem ofDigits_eq (ds : List Char) : ofDigits ds = Nat.ofDigitChars 10 ds 0 := by
  unfold ofDigits Nat.ofDigitChars
  simp only [Nat.mul_comm]

theorem ofDigits_toDigits (n : Nat) : ofDigits (Nat.toDigits 10 n) = n := by
  rw [ofDigits_eq, Nat.ofDigitChars_ten_toDigits]

theorem ofDigits_append_zeros (ds : List Char) (n : Nat) :
    ofDigits (ds ++ zeros n) = ofDigits ds * 10 ^ n := by
  simp only [ofDigits_eq, zeros, Nat.ofDigitChars_append, Nat.ofDigitChars_replicate_zero]
  exact Nat.mul_comm _ _

theorem ofDigits_zeros_append (n : Nat) (ds : List Char) : ofDigits (zeros n ++ ds) = ofDigits ds := by
  simp only [ofDigits_eq, zeros, Nat.ofDigitChars_append, Nat.ofDigitChars_replicate_zero, mul_zero]

theorem spanDigits_append {ds : List Char} (h : ∀ c ∈ ds, c.isDigit) (rest : List Char) :
    spanDigits (ds ++ rest) = (ds ++ (spanDigits rest).1, (spanDigits rest).2) := by
  rw [spanDigits, List.takeWhile_append_of_pos h, List.dropWhile_append_of_pos h, spanDigits]

theorem spanDigits_digits {ds : List Char} (h : ∀ c ∈ ds, c.isDigit) : spanDigits ds = (ds, []) := by
  simpa [spanDigits] using spanDigits_append h []

/-- Digits alone write an integer. -/
theorem readMagnitude?_digits {ds : List Char} (hne : ds ≠ []) (h : ∀ c ∈ ds, c.isDigit) :
    readMagnitude? ds = some (nearest (ofDigits ds) 0) := by
  simp [readMagnitude?, spanDigits_digits h, readExponent?, hne]

/-- Each digit after a point divides by ten. -/
theorem readMagnitude?_point {whole fraction : List Char} (hne : whole ≠ [] ∨ fraction ≠ [])
    (hwhole : ∀ c ∈ whole, c.isDigit) (hfraction : ∀ c ∈ fraction, c.isDigit) :
    readMagnitude? (whole ++ '.' :: fraction) =
      some (nearest (ofDigits (whole ++ fraction)) (-fraction.length)) := by
  have hspan : spanDigits (whole ++ '.' :: fraction) = (whole, '.' :: fraction) := by
    rw [spanDigits_append hwhole]
    simp [spanDigits]
  have hdigits : ¬ (whole = [] ∧ fraction = []) := fun ⟨hw, hf⟩ => hne.elim (· hw) (· hf)
  simp [readMagnitude?, hspan, spanDigits_digits hfraction, readExponent?, hdigits]

/-! ### Numerals -/

theorem toLower_of_isDigit {c : Char} (h : c.isDigit) : c.toLower = c := by
  simp only [Char.isDigit, Bool.and_eq_true, decide_eq_true_eq] at h
  exact dif_neg fun hupper => absurd (UInt32.le_trans hupper.1 h.2) (by decide)

/-- Numerals are read as magnitudes, since they begin with a digit: no sign and no name does. -/
theorem read?_of_isNumeral {s : String} (h : IsNumeral s.toList) : read? s = readMagnitude? s.toList := by
  obtain ⟨c, cs, hs, hc⟩ := h.exists_cons
  have hsigned : signed s.toList = (false, s.toList) := by
    rw [hs]
    unfold signed
    split
    · next heq => cases heq; cases hc
    · next heq => cases heq; cases hc
    · rfl
  have hname {name : String} {d : Char} {ds : List Char} (hname : name.toList = d :: ds)
      (hd : d.isDigit = false) : s.toLower ≠ name := by
    rintro rfl
    rw [String.toLower, String.toList_map, hs, List.map_cons, toLower_of_isDigit hc,
      List.cons.injEq] at hname
    rw [← hname.1, hc] at hd
    cases hd
  have hinf : s.toLower ≠ "inf" := hname rfl rfl
  have hinfinity : s.toLower ≠ "infinity" := hname rfl rfl
  have hnan : s.toLower ≠ "nan" := hname rfl rfl
  simp [read?, readDecimal?, hsigned, hinf, hinfinity, hnan]

/-! ### Positional notation -/

/-- A fraction with its point. -/
def fractionChars : List Char → List Char
  | [] => []
  | ds => '.' :: ds

/-- The digits before a point and those behind it write a decimal. -/
structure Positional (d : Decimal) (whole fraction : List Char) : Prop where
  whole_ne : whole ≠ []
  wholeDigits : ∀ c ∈ whole, c.isDigit
  fractionDigits : ∀ c ∈ fraction, c.isDigit
  value : (ofDigits (whole ++ fraction) * 10 ^ (-fraction.length : Int) : ℚ) = d.value

section

variable {d : Decimal}

/-- An integer, with any number of zeros behind the point. -/
theorem positional_integer (h : d.exponent ≥ 0) (places : Nat) :
    Positional d (Nat.toDigits 10 d.digits ++ zeros d.exponent.toNat) (zeros places) where
  whole_ne := List.append_ne_nil_of_left_ne_nil Nat.toDigits_ne_nil _
  wholeDigits := List.forall_mem_append.2 ⟨fun _ => isDigit_of_mem_toDigits, fun _ => isDigit_of_mem_zeros⟩
  fractionDigits _ := isDigit_of_mem_zeros
  value := by
    obtain ⟨k, hk⟩ := Int.eq_ofNat_of_zero_le h
    rw [ofDigits_append_zeros, ofDigits_append_zeros, ofDigits_toDigits, Decimal.value, hk]
    simp [zeros]

/-- Some of the digits stand behind the point. -/
theorem positional_split (h : ¬ d.exponent ≥ 0) (hplaces : (-d.exponent).toNat < (Nat.toDigits 10 d.digits).length) :
    Positional d ((Nat.toDigits 10 d.digits).take ((Nat.toDigits 10 d.digits).length - (-d.exponent).toNat))
      ((Nat.toDigits 10 d.digits).drop ((Nat.toDigits 10 d.digits).length - (-d.exponent).toNat)) where
  whole_ne := by
    rw [← List.length_pos_iff, List.length_take]
    omega
  wholeDigits _ hc := isDigit_of_mem_toDigits (List.mem_of_mem_take hc)
  fractionDigits _ hc := isDigit_of_mem_toDigits (List.mem_of_mem_drop hc)
  value := by
    rw [List.take_append_drop, ofDigits_toDigits, List.length_drop, Decimal.value]
    congr 2
    omega

/-- All of the digits stand behind the point, with zeros in between. -/
theorem positional_fraction (h : ¬ d.exponent ≥ 0)
    (hplaces : ¬ (-d.exponent).toNat < (Nat.toDigits 10 d.digits).length) :
    Positional d (zeros 1)
      (zeros ((-d.exponent).toNat - (Nat.toDigits 10 d.digits).length) ++ Nat.toDigits 10 d.digits) where
  whole_ne := by decide
  wholeDigits _ := isDigit_of_mem_zeros
  fractionDigits := List.forall_mem_append.2 ⟨fun _ => isDigit_of_mem_zeros, fun _ => isDigit_of_mem_toDigits⟩
  value := by
    rw [ofDigits_zeros_append, ofDigits_zeros_append, ofDigits_toDigits, List.length_append, zeros,
      List.length_replicate, Decimal.value]
    congr 2
    omega

end

theorem fractionChars_of_ne_nil {ds : List Char} (h : ds ≠ []) : fractionChars ds = '.' :: ds := by
  cases ds with
  | nil => exact absurd rfl h
  | cons d ds => rfl

/-- **Positional notation** is digits with a point among them or not. -/
theorem exists_positional (pointZero : Bool) (d : Decimal) : ∃ whole fraction, Positional d whole fraction ∧
    positionalChars pointZero (Nat.toDigits 10 d.digits) d.exponent = whole ++ fractionChars fraction := by
  unfold positionalChars
  dsimp only
  by_cases hexponent : d.exponent ≥ 0
  · rw [if_pos hexponent]
    cases pointZero with
    | false => exact ⟨_, _, positional_integer hexponent 0, rfl⟩
    | true => exact ⟨_, _, positional_integer hexponent 1, rfl⟩
  · rw [if_neg hexponent]
    by_cases hplaces : (-d.exponent).toNat < (Nat.toDigits 10 d.digits).length
    · have hfraction : (Nat.toDigits 10 d.digits).drop
          ((Nat.toDigits 10 d.digits).length - (-d.exponent).toNat) ≠ [] := by
        rw [← List.length_pos_iff, List.length_drop]
        omega
      refine ⟨_, _, positional_split hexponent hplaces, ?_⟩
      rw [if_pos hplaces, fractionChars_of_ne_nil hfraction]
    · have hfraction : zeros ((-d.exponent).toNat - (Nat.toDigits 10 d.digits).length) ++
          Nat.toDigits 10 d.digits ≠ [] := List.append_ne_nil_of_right_ne_nil _ Nat.toDigits_ne_nil
      refine ⟨_, _, positional_fraction hexponent hplaces, ?_⟩
      rw [if_neg hplaces, fractionChars_of_ne_nil hfraction]
      rfl

/-- Positional notation is read as the decimal that it writes. -/
theorem readMagnitude?_positionalChars (d : Decimal) :
    ∃ n : Nat, ∃ k : Int, (n * 10 ^ k : ℚ) = d.value ∧
      readMagnitude? (positionalChars false (Nat.toDigits 10 d.digits) d.exponent) =
        some (nearest n k) := by
  obtain ⟨whole, fraction, h, hchars⟩ := exists_positional false d
  refine ⟨_, _, h.value, ?_⟩
  rw [hchars]
  cases fraction with
  | nil =>
      rw [fractionChars, List.append_nil, readMagnitude?_digits h.whole_ne h.wholeDigits]
      rfl
  | cons c cs => exact readMagnitude?_point (.inl h.whole_ne) h.wholeDigits h.fractionDigits

/-! ### Whole numbers -/

/-- The integer part of a whole magnitude is the magnitude. -/
theorem whole_of_isWhole {d : Dyadic} (h : d.isWhole) :
    (d.whole : ℚ) = d.significand * 2 ^ d.exponent := by
  rw [Dyadic.isWhole, beq_iff_eq, Nat.one_shiftLeft] at h
  have hshift : d.whole * 2 ^ (-d.exponent).toNat = d.significand * 2 ^ d.exponent.toNat := by
    rw [Dyadic.whole, Nat.shiftRight_eq_div_pow, Nat.shiftLeft_eq]
    exact Nat.div_mul_cancel (Nat.dvd_mul_right_of_dvd (Nat.dvd_of_mod_eq_zero h) _)
  have hshiftQ : (d.whole * 2 ^ (-d.exponent).toNat : ℚ) = d.significand * 2 ^ d.exponent.toNat := by
    exact_mod_cast hshift
  rw [← zpow_mul_pow_toNat two_ne_zero d.exponent, ← mul_assoc] at hshiftQ
  exact mul_right_cancel₀ (pow_ne_zero _ two_ne_zero) hshiftQ

/-- A whole number is read back. -/
theorem readMagnitude?_whole {x : Float} {m : Nat} {e : Int} (hm : Canonical m e)
    (hbits : x.toBits.toNat = bits m e) (hwhole : (Dyadic.ofFloat x).isWhole) :
    readMagnitude? (Nat.toDigits 10 (Dyadic.ofFloat x).whole) = some x := by
  have hvalue := whole_of_isWhole hwhole
  have hrounds : RoundsTo ((Dyadic.ofFloat x).whole * 10 ^ (0 : Int)) m e := by
    rw [zpow_zero, mul_one, hvalue, ofFloat_of_bits hm hbits]
    exact roundsTo_self
  rw [readMagnitude?_digits Nat.toDigits_ne_nil fun _ => isDigit_of_mem_toDigits, ofDigits_toDigits,
    nearest_of_roundsTo hm hbits hrounds]

/-- The shortest decimal of a number is read back. -/
theorem readMagnitude?_shortest {x : Float} {m : Nat} {e : Int} (hm : Canonical m e)
    (hbits : x.toBits.toNat = bits m e) : readMagnitude? (plain.magnitude x) = some x := by
  obtain ⟨n, k, hvalue, hread⟩ := readMagnitude?_positionalChars ((Dyadic.ofFloat x).shortest plain.tie)
  have hrounds : RoundsTo (n * 10 ^ k) m e := by
    rw [hvalue, ofFloat_of_bits hm hbits]
    exact roundsTo_shortest hm.pos plain.tie
  show readMagnitude? (positionalChars false (Nat.toDigits 10 _) _) = _
  rw [hread, nearest_of_roundsTo hm hbits hrounds]

/-- **Printing a number undoes reading it**: the text of a finite number without a minus sign reads back
as the number. -/
theorem read?_numberText {x : Float} (hfinite : x.isFinite) (hx : isNegative x = false) :
    read? (Value.numberText x) = some x := by
  by_cases hzero : x.toBits.toNat = 0
  · obtain rfl : x = 0 := eq_of_toBits (UInt64.toNat_inj.1 hzero)
    decide +kernel
  obtain ⟨m, e, hm, hbits⟩ := exists_canonical hfinite hx hzero
  obtain ⟨hnan, hinf⟩ := not_isNaN_and_not_isInf hfinite
  rw [read?_of_isNumeral (numberText_isNumeral hfinite hx)]
  unfold Value.numberText
  rw [hnan, hinf]
  simp only [Bool.false_eq_true, if_false]
  split
  · next hwhole =>
      simp only [isWhole, Bool.and_eq_true] at hwhole
      rw [truncate, hx]
      show readMagnitude? (Nat.repr (Dyadic.ofFloat x).whole).toList = _
      rw [Nat.toList_repr]
      exact readMagnitude?_whole hm hbits hwhole.1.2
  · rw [Layout.render, hx]
    simp only [Bool.false_eq_true, if_false, String.toList_ofList]
    exact readMagnitude?_shortest hm hbits

end Costing.Number
