import Costing.Proofs.Number.Monotone
import Costing.Proofs.Price.Cheapest

/-!
# Price — ordering more

Each tier that a larger quantity can be priced by can price a smaller one too, and charges no more for it.

* `PriceTier.coversOrExceeds_of_le`: a tier at or above a quantity is at or above the smaller ones.
* `Quote.total_le_total`: a tier charges no less for more.
* `selectTier_total_mono`: **the cheapest total never falls when more is ordered.**
-/

namespace Costing

open Costing.Number (larger_le_larger larger_eq_or le_trans le_of_not_lt mul_le_mul_right not_isNaN_of_isFinite
  rounded_mul)

variable {small large : Float}

theorem PriceTier.coversOrExceeds_of_le {t : PriceTier} (h : small ≤ large) (hcovers : t.coversOrExceeds large) :
    t.coversOrExceeds small := by
  unfold coversOrExceeds at hcovers ⊢
  cases hto : t.quantityTo with
  | none => rfl
  | some bound =>
      rw [hto, Option.all_some, decide_eq_true_iff] at hcovers
      exact decide_eq_true (le_trans h hcovers)

/-- A tier with a finite floor and a finite price that is not negative; its upper end does not matter. -/
def PriceTier.Regular (t : PriceTier) : Prop :=
  t.quantityFrom.isFinite ∧ t.price.isFinite ∧ 0 ≤ t.price

namespace Quote

theorem isFinite_billed {quantity : Float} {t : PriceTier} (hquantity : quantity.isFinite)
    (ht : t.Regular) (i : Nat) : (ofTier quantity i t).billed.isFinite := by
  show (Number.larger quantity t.quantityFrom).isFinite
  rcases larger_eq_or quantity t.quantityFrom with h | h
  · rwa [h]
  · rw [h]
    exact ht.1

theorem not_isNaN_total {quantity : Float} {t : PriceTier} (hquantity : quantity.isFinite)
    (ht : t.Regular) (i : Nat) : (ofTier quantity i t).total.isNaN = false :=
  (rounded_mul (isFinite_billed hquantity ht i) ht.2.1).not_isNaN

/-- **A tier charges no less for more.** -/
theorem total_le_total {t : PriceTier} (hsmall : small.isFinite) (hlarge : large.isFinite) (ht : t.Regular)
    (h : small ≤ large) (i : Nat) : (ofTier small i t).total ≤ (ofTier large i t).total := by
  have hbilled : Number.larger small t.quantityFrom ≤ Number.larger large t.quantityFrom :=
    larger_le_larger (not_isNaN_of_isFinite hsmall) (not_isNaN_of_isFinite hlarge) (not_isNaN_of_isFinite ht.1) h
  exact mul_le_mul_right (isFinite_billed hsmall ht i) (isFinite_billed hlarge ht i) ht.2.1 ht.2.2 hbilled

end Quote

open Quote

/-- **The cheapest total never falls when more is ordered**: if a quantity can be priced, so can every smaller one, at a
total that is not larger. -/
theorem selectTier_total_mono [Machine] {tiers : List PriceTier} {b : Quote} (htiers : ∀ t ∈ tiers, t.Regular)
    (hsmall : small.isFinite) (hlarge : large.isFinite) (h : small ≤ large)
    (hb : selectTier .cheapest large tiers = some b) :
    ∃ a, selectTier .cheapest small tiers = some a ∧ a.total ≤ b.total := by
  obtain ⟨t, i, hi, hcovers, rfl⟩ := usable_iff.1 (selectTier_eq_some_iff.1 hb).1
  have ht := htiers t (List.mem_of_getElem? hi)
  have hcovers' := PriceTier.coversOrExceeds_of_le h hcovers
  have husable : Usable small tiers (ofTier small i t) := usable_iff.2 ⟨t, i, hi, hcovers', rfl⟩
  cases ha : selectTier .cheapest small tiers with
  | none =>
      have hnone := selectTier_eq_none_iff.1 ha t (List.mem_of_getElem? hi)
      exact absurd (hcovers'.symm.trans hnone) nofun
  | some a =>
      obtain ⟨t', i', hi', -, rfl⟩ := usable_iff.1 (selectTier_eq_some_iff.1 ha).1
      have ht' := htiers t' (List.mem_of_getElem? hi')
      -- the chosen tier is not dearer than the one that is chosen for more
      have hchosen := le_of_not_lt (not_isNaN_total hsmall ht' i') (not_isNaN_total hsmall ht i)
        (not_total_lt_of_selectTier ha husable)
      exact ⟨_, rfl, le_trans hchosen (total_le_total hsmall hlarge ht h i)⟩

open Native

/-- Fifty pieces are priced by the first tier, ninety as cheaply as a hundred. -/
theorem selectTier_total_mono_twoTiers :
    (∀ t ∈ [(⟨1, some 99, 10, .currency⟩ : PriceTier), ⟨100, none, 8, .currency⟩], t.Regular) ∧
      (50 : Float).isFinite ∧ (90 : Float).isFinite ∧ (50 : Float) ≤ 90 ∧
      ∃ b, selectTier .cheapest 90 [⟨1, some 99, 10, .currency⟩, ⟨100, none, 8, .currency⟩] = some b ∧
        ∃ a, selectTier .cheapest 50 [⟨1, some 99, 10, .currency⟩, ⟨100, none, 8, .currency⟩] = some a ∧
          a.total ≤ b.total := by
  have htiers : ∀ t ∈ [(⟨1, some 99, 10, .currency⟩ : PriceTier), ⟨100, none, 8, .currency⟩], t.Regular := by
    unfold PriceTier.Regular
    decide +kernel
  have hfifty : (50 : Float).isFinite := by decide +kernel
  have hninety : (90 : Float).isFinite := by decide +kernel
  have hle : (50 : Float) ≤ 90 := by decide +kernel
  obtain ⟨b, hb⟩ : ∃ b, selectTier .cheapest 90
      [⟨1, some 99, 10, .currency⟩, ⟨100, none, 8, .currency⟩] = some b :=
    Option.isSome_iff_exists.1 (by decide +kernel)
  exact ⟨htiers, hfifty, hninety, hle, b, hb, selectTier_total_mono htiers hfifty hninety hle hb⟩

end Costing
