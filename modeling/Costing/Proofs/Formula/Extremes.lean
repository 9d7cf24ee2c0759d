import Costing.Formula.Eval
import Costing.Native
import Costing.Proofs.Number.Line
import Costing.Proofs.Number.NotANumber

/-!
# Formula — extremes

`min` and `max` pick from two numbers at a time and stop at the first that is NaN.  A pick passes over NaN, so it is
the stop that keeps a missing value from going unnoticed.

* `Value.isNaN_toNumber_iff`: which values count as NaN.
* `Extreme.IsExtreme`: the extreme of some numbers, NaN if one of them is.
* `IsExtreme.of_pick`: one pick leaves the extreme as it is, and so does a run of picks (`Picks.isExtreme`).
* `IsExtreme.same`: numbers have one extreme but for the sign of zero, in whatever order they are.
* `apply_isExtreme`: **`min` and `max` find the extreme** of what they range over.
-/

namespace Costing

namespace Value

/-! ### What counts as NaN -/

/-- Values that count as NaN: a missing one, NaN itself, an array, a record, and a text that looks like no number
unless it is blank. -/
inductive IsNoNumber : Value → Prop where
  | null : IsNoNumber .null
  | number {x : Float} (h : x.isNaN) : IsNoNumber (.number x)
  | string {s : String} (hblank : ¬ Text.isAllBlank s) (hread : readNumeric? s = none) : IsNoNumber (.string s)
  | array (items : List Value) : IsNoNumber (.array items)
  | record (fields : List (String × Value)) : IsNoNumber (.record fields)

/-- No text is read as NaN, since what is read is finite. -/
theorem not_isNaN_of_readNumeric? {s : String} {x : Float} (h : readNumeric? s = some x) : x.isNaN = false := by
  simp only [readNumeric?, Option.ite_none_left_eq_some, Option.filter_eq_some_iff] at h
  obtain ⟨-, -, hfinite⟩ := h
  exact Number.not_isNaN_of_isFinite hfinite

theorem isNaN_toNumber_iff {v : Value} : v.toNumber.isNaN ↔ v.IsNoNumber := by
  cases v with
  | null => exact iff_of_true Number.isNaN_nan .null
  | array items => exact iff_of_true Number.isNaN_nan (.array items)
  | record fields => exact iff_of_true Number.isNaN_nan (.record fields)
  | bool b => exact iff_of_false (by cases b <;> decide) nofun
  | number x => exact ⟨.number, fun | .number h => h⟩
  | string s =>
      rw [toNumber]
      by_cases hblank : Text.isAllBlank s
      · rw [if_pos hblank]
        exact iff_of_false (by decide) fun | .string hnot _ => hnot hblank
      · rw [if_neg hblank]
        cases hread : readNumeric? s with
        | none => exact iff_of_true Number.isNaN_nan (.string hblank hread)
        | some x =>
            rw [Option.getD_some, not_isNaN_of_readNumeric? hread]
            refine iff_of_false Bool.false_ne_true ?_
            rintro (_ | _ | ⟨-, hnone⟩)
            rw [hread] at hnone
            cases hnone

end Value

namespace Formula.Builtin

open Number (larger smaller)

variable {x y z : Float} {rest numbers others : List Float} {items : List Value}

/-! ### The extreme of some numbers -/

/-- The least of some numbers, or the greatest. -/
inductive Extreme where
  | least
  | greatest

namespace Extreme

variable {e : Extreme} {pick : Float → Float → Float}

/-- The function that finds it. -/
def builtin : Extreme → Builtin
  | least => .min
  | greatest => .max

/-- The second number is not below the first, if the least is looked for, or not above it. -/
def Bounds : Extreme → Float → Float → Prop
  | least, x, y => x ≤ y
  | greatest, x, y => y ≤ x

theorem bounds_refl (e : Extreme) (hx : x.isNaN = false) : e.Bounds x x := by
  cases e <;> exact Number.le_refl hx

theorem Bounds.trans (hxy : e.Bounds x y) (hyz : e.Bounds y z) : e.Bounds x z := by
  cases e with
  | least => exact Number.le_trans hxy hyz
  | greatest => exact Number.le_trans hyz hxy

/-- Numbers that bound each other are equal; they may be the two zeros. -/
theorem Bounds.beq (hxy : e.Bounds x y) (hyx : e.Bounds y x) : x == y := by
  cases e with
  | least => exact Number.beq_of_le_of_le hxy hyx
  | greatest => exact Number.beq_of_le_of_le hyx hxy

/-- The extreme of some numbers: NaN if one of them is NaN, else one of them that bounds them all. -/
structure IsExtreme (e : Extreme) (numbers : List Float) (x : Float) : Prop where
  isNaN_iff : x.isNaN ↔ ∃ y ∈ numbers, y.isNaN
  mem : x.isNaN = false → x ∈ numbers
  bounds : x.isNaN = false → ∀ y ∈ numbers, e.Bounds x y

theorem IsExtreme.ne_nil (h : e.IsExtreme numbers x) : numbers ≠ [] := by
  rintro rfl
  cases hx : x.isNaN with
  | true =>
      obtain ⟨y, hy, -⟩ := h.isNaN_iff.1 hx
      cases hy
  | false => cases h.mem hx

theorem isExtreme_singleton (e : Extreme) (x : Float) : e.IsExtreme [x] x where
  isNaN_iff := by simp only [List.mem_singleton, exists_eq_left]
  mem _ := List.mem_singleton_self x
  bounds hx y hy := by
    rw [List.mem_singleton.1 hy]
    exact e.bounds_refl hx

theorem isExtreme_of_isNaN (hx : x.isNaN) (h : ∃ y ∈ numbers, y.isNaN) : e.IsExtreme numbers x where
  isNaN_iff := iff_of_true hx h
  mem hnot := absurd (hx.symm.trans hnot) nofun
  bounds hnot := absurd (hx.symm.trans hnot) nofun

/-! ### Picks -/

/-- Picking from two numbers the one that bounds the other.  What is picked from NaN is left open. -/
def Picks (e : Extreme) (pick : Float → Float → Float) : Prop :=
  ∀ x y : Float, x.isNaN = false → y.isNaN = false →
    (pick x y = x ∨ pick x y = y) ∧ e.Bounds (pick x y) x ∧ e.Bounds (pick x y) y

theorem picks_smaller : Picks least smaller := by
  intro x y hx hy
  have hpick := Number.not_isNaN_smaller hx hy
  refine ⟨Number.smaller_eq_or x y, (Number.le_iff_level hpick hx).2 ?_, (Number.le_iff_level hpick hy).2 ?_⟩
  · rw [Number.level_smaller hx hy]
    exact min_le_left _ _
  · rw [Number.level_smaller hx hy]
    exact min_le_right _ _

theorem picks_larger : Picks greatest larger := by
  intro x y hx hy
  have hpick := Number.not_isNaN_larger hx hy
  refine ⟨Number.larger_eq_or x y, (Number.le_iff_level hx hpick).2 ?_, (Number.le_iff_level hy hpick).2 ?_⟩
  · rw [Number.level_larger hx hy]
    exact le_max_left _ _
  · rw [Number.level_larger hx hy]
    exact le_max_right _ _

/-- **One pick**: the extreme stays the same if two numbers are replaced by the one that is picked. -/
theorem IsExtreme.of_pick (hpick : e.Picks pick) (hx : x.isNaN = false) (hy : y.isNaN = false)
    (h : e.IsExtreme (pick x y :: rest) z) : e.IsExtreme (x :: y :: rest) z := by
  obtain ⟨heq, hboundsx, hboundsy⟩ := hpick x y hx hy
  have hnan : (pick x y).isNaN = false := by rcases heq with heq | heq <;> rwa [heq]
  refine ⟨?_, fun hz => ?_, fun hz w hw => ?_⟩
  · have hiff := h.isNaN_iff
    simp only [List.mem_cons, exists_eq_or_imp, hnan, Bool.false_eq_true, false_or] at hiff
    simpa only [List.mem_cons, exists_eq_or_imp, hx, hy, Bool.false_eq_true, false_or] using hiff
  · rcases List.mem_cons.1 (h.mem hz) with rfl | hmem
    · rcases heq with heq | heq <;> simp [heq]
    · exact List.mem_cons_of_mem x (List.mem_cons_of_mem y hmem)
  · have hbounds := h.bounds hz (pick x y) List.mem_cons_self
    simp only [List.mem_cons] at hw
    rcases hw with rfl | rfl | hw
    · exact hbounds.trans hboundsx
    · exact hbounds.trans hboundsy
    · exact h.bounds hz w (List.mem_cons_of_mem _ hw)

/-- **Picks one after the other** end with the extreme of all numbers. -/
theorem Picks.isExtreme (hpick : e.Picks pick) (first : Float) (rest : List Float) :
    e.IsExtreme (first :: rest) (pickFrom pick first rest) := by
  induction rest generalizing first with
  | nil => exact e.isExtreme_singleton first
  | cons next rest ih =>
      rw [pickFrom]
      split
      · next hnan =>
          -- one of the two at hand is NaN, whatever is still to come
          refine isExtreme_of_isNaN Number.isNaN_nan ?_
          rcases Bool.or_eq_true_iff.1 hnan with hnan | hnan
          · exact ⟨next, by simp, hnan⟩
          · exact ⟨first, by simp, hnan⟩
      · next hnan =>
          rw [Bool.not_eq_true, Bool.or_eq_false_iff] at hnan
          exact (ih (pick first next)).of_pick hpick hnan.2 hnan.1

/-! ### Other orders -/

/-- The same as numbers: the two zeros are one, and NaN is only the same as NaN. -/
def SameNumber (x y : Float) : Prop :=
  x == y ∨ x.isNaN ∧ y.isNaN

/-- Numbers in another order have the same extreme. -/
theorem IsExtreme.same (h : e.IsExtreme numbers x) (h' : e.IsExtreme others y) (hperm : numbers.Perm others) :
    SameNumber x y := by
  have hiff : x.isNaN ↔ y.isNaN := by
    rw [h.isNaN_iff, h'.isNaN_iff]
    simp only [hperm.mem_iff]
  by_cases hx : x.isNaN
  · exact .inr ⟨hx, hiff.1 hx⟩
  · have hy : ¬ y.isNaN := mt hiff.2 hx
    rw [Bool.not_eq_true] at hx hy
    have hxy := h.bounds hx y (hperm.mem_iff.2 (h'.mem hy))
    have hyx := h'.bounds hy x (hperm.mem_iff.1 (h.mem hx))
    exact .inl (hxy.beq hyx)

/-! ### `min` and `max` -/

/-- What arguments range over: the items of an array that stands alone, else the arguments themselves. -/
inductive RangesOver : Arguments → List Value → Prop where
  | items (items : List Value) : RangesOver [.array items] items
  | arguments {args : Arguments} (h : ∀ items, args ≠ [.array items]) : RangesOver args args

theorem rangesOver_extremeItems (args : Arguments) : RangesOver args (extremeItems args) := by
  unfold extremeItems
  split
  · exact .items _
  · next h => exact .arguments h

theorem RangesOver.eq_extremeItems {args : Arguments} (h : RangesOver args items) : items = extremeItems args := by
  cases h with
  | items => rfl
  | arguments h =>
      unfold extremeItems
      split
      · exact absurd rfl (h _)
      · rfl

/-- What is found among items: the extreme of the numbers that they count as, and a fault if there are no items. -/
inductive Finds (e : Extreme) : List Value → Outcome → Prop where
  | none : Finds e [] (.error (.argument (.noValues e.builtin.name)))
  | number {items : List Value} {x : Float} (h : e.IsExtreme (items.map Value.toNumber) x) :
      Finds e items (.ok (.number x))

/-- Both functions pick from two numbers the one that bounds the other. -/
theorem exists_picks [Platform] (e : Extreme) :
    ∃ pick, e.Picks pick ∧ ∀ args, e.builtin.apply args = applyExtreme e.builtin.name pick args := by
  cases e with
  | least => exact ⟨smaller, picks_smaller, fun _ => rfl⟩
  | greatest => exact ⟨larger, picks_larger, fun _ => rfl⟩

theorem finds_apply [Platform] (e : Extreme) (args : Arguments) : e.Finds (extremeItems args) (e.builtin.apply args) := by
  obtain ⟨pick, hpick, happly⟩ := e.exists_picks
  rw [happly, applyExtreme]
  cases extremeItems args with
  | nil => exact .none
  | cons first rest => exact .number (hpick.isExtreme first.toNumber (rest.map Value.toNumber))

/-- The same outcome, its number taken as a number. -/
inductive SameOutcome : Outcome → Outcome → Prop where
  | fault (fault : Fault) : SameOutcome (.error fault) (.error fault)
  | number {x y : Float} (h : SameNumber x y) : SameOutcome (.ok (.number x)) (.ok (.number y))

namespace Finds

variable {outcome outcome' : Outcome} {reordered : List Value}

theorem eq_error_iff (h : e.Finds items outcome) (fault : Fault) :
    outcome = .error fault ↔ items = [] ∧ fault = .argument (.noValues e.builtin.name) := by
  cases h with
  | none => simp [eq_comm]
  | number h =>
      constructor
      · intro heq
        cases heq
      · rintro ⟨rfl, -⟩
        exact absurd rfl h.ne_nil

theorem exists_number (h : e.Finds items outcome) (hne : items ≠ []) :
    ∃ x, outcome = .ok (.number x) ∧ e.IsExtreme (items.map Value.toNumber) x := by
  cases h with
  | none => exact absurd rfl hne
  | number h => exact ⟨_, rfl, h⟩

/-- Among items in another order the same is found. -/
theorem same (h : e.Finds items outcome) (h' : e.Finds reordered outcome') (hperm : items.Perm reordered) :
    SameOutcome outcome outcome' := by
  cases h with
  | none =>
      obtain rfl := hperm.nil_eq
      cases h' with
      | none => exact .fault _
      | number h' => exact absurd rfl h'.ne_nil
  | number h =>
      cases h' with
      | none =>
          obtain rfl := hperm.eq_nil
          exact absurd rfl h.ne_nil
      | number h' => exact .number (h.same h' (hperm.map _))

end Finds

/-- **`min` and `max` find the extreme** of what they range over, and fail only if that is nothing.  What they find is
NaN if one of the items counts as NaN, as a missing value does, wherever it stands; else it is one of the numbers that
the items count as, and none of them is smaller (or larger).  The order of the items does not matter. -/
theorem apply_isExtreme [Platform] (e : Extreme) (args : Arguments) : ∃ items, RangesOver args items ∧
    (∀ fault, e.builtin.apply args = .error fault ↔ items = [] ∧ fault = .argument (.noValues e.builtin.name)) ∧
    (items ≠ [] → ∃ x, e.builtin.apply args = .ok (.number x) ∧ e.IsExtreme (items.map Value.toNumber) x ∧
      (x.isNaN ↔ ∃ v ∈ items, v.IsNoNumber)) ∧
    ∀ others reordered, RangesOver others reordered → items.Perm reordered →
      SameOutcome (e.builtin.apply args) (e.builtin.apply others) := by
  have hfinds := e.finds_apply args
  refine ⟨_, rangesOver_extremeItems args, hfinds.eq_error_iff, fun hne => ?_, ?_⟩
  · obtain ⟨x, hx, hextreme⟩ := hfinds.exists_number hne
    refine ⟨x, hx, hextreme, ?_⟩
    rw [hextreme.isNaN_iff]
    simp only [List.mem_map, exists_exists_and_eq_and, Value.isNaN_toNumber_iff]
  · intro others reordered hover hperm
    rw [hover.eq_extremeItems] at hperm
    exact hfinds.same (e.finds_apply others) hperm

open Native

/-- A text that is no number is not passed over for a larger number after it, nor if it stands first in an array. -/
theorem apply_isExtreme_wordBetween :
    (∃ x, Builtin.max.apply [.number 3, .string "abc", .number 9] = .ok (.number x) ∧ x.isNaN) ∧
      SameOutcome (Builtin.max.apply [.number 3, .string "abc", .number 9])
        (Builtin.max.apply [.array [.string "abc", .number 9, .number 3]]) := by
  obtain ⟨items, hover, -, hfound, hreorder⟩ := apply_isExtreme greatest [.number 3, .string "abc", .number 9]
  obtain rfl := hover.eq_extremeItems
  constructor
  · obtain ⟨x, hx, -, hnan⟩ := hfound nofun
    have hword : Value.IsNoNumber (.string "abc") := .string (by decide +kernel) (by decide +kernel)
    exact ⟨x, hx, hnan.2 ⟨_, .tail _ (.head _), hword⟩⟩
  · have hperm : [Value.number 3, .string "abc", .number 9].Perm [.string "abc", .number 9, .number 3] :=
      (List.Perm.swap _ _ _).trans (.cons _ (.swap _ _ _))
    exact hreorder _ _ (.items _) hperm

end Extreme

end Formula.Builtin

end Costing
