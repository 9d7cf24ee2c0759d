import Costing.Native
import Costing.Price.Tier
import Costing.Proofs.Number.Total

/-!
# Price — the cheapest tier

A quantity can be priced by each tier at or above it.  The quotes of these tiers are put in one order: by total, by unit
price, by billed quantity and by the place of the tier.  The numbers are in the total order, in which the bits of NaNs
count; these are up to the machine.

* `Quote.charge`, `Quote.place`: what a quote charges, and its place in the order.  `Quote.place_le_place_iff`: what the
  order compares.
* `Quote.least_spec`: the least of some quotes is one of them, and none comes before it.
* `Quote.Usable`: the quotes that a quantity can be priced by.
* `not_total_lt_of_selectTier`: no other quote has a smaller total.
* `ChargedBy.charges_eq`: tiers whose quotes charge the same have cheapest quotes that charge the same.
* `selectTier_cheapest`: **the cheapest quote** is the least of those that the quantity can be priced by, there is none
  only if no tier is at or above the quantity, and what it charges does not depend on the order of the tiers.
-/

namespace Costing

open Costing.Number (Total isNaN_mul not_isNaN_of_lt rank)

namespace Quote

/-! ### The order of quotes -/

section

variable (nans : Nat → NaNs)

/-- The total of a quote, as the total order sees it. -/
def seenTotal (q : Quote) : Total :=
  .ofFloat (nans q.tier).total q.total

/-- The unit price of a quote, as the total order sees it. -/
def seenUnitPrice (q : Quote) : Total :=
  .ofFloat (nans q.tier).unitPrice q.unitPrice

/-- The billed quantity of a quote, as the total order sees it. -/
def seenBilled (q : Quote) : Total :=
  .ofFloat (nans q.tier).billed q.billed

/-- What a quote charges, as quotes are put in order: the total, the unit price and the billed quantity. -/
def charge (q : Quote) : Int ×ₗ Int ×ₗ Int :=
  toLex ((q.seenTotal nans).rank, toLex ((q.seenUnitPrice nans).rank, (q.seenBilled nans).rank))

/-- The place of a quote in their order: by what it charges, and then by the place of its tier. -/
def place (q : Quote) : (Int ×ₗ Int ×ₗ Int) ×ₗ Nat :=
  toLex (q.charge nans, q.tier)

end

variable {nans nans' : Nat → NaNs} {quotes : List Quote} {p q r : Quote}

theorem before_iff : p.before nans q ↔ p.place nans < q.place nans := by
  simp only [before, sortKey, place, charge, seenTotal, seenUnitPrice, seenBilled, decide_eq_true_iff,
    List.cons_lt_cons_iff, Prod.Lex.toLex_lt_toLex, List.not_lt_nil, Int.ofNat_lt, toLex_inj, Prod.mk.injEq, and_false,
    or_false, and_or_left, or_assoc, and_assoc]

/-- **What the order of quotes compares**: the totals, in case of a tie the unit prices, then the billed quantities, and
last the places of the tiers. -/
theorem place_le_place_iff : q.place nans ≤ r.place nans ↔
    ¬ (r.seenTotal nans).Precedes (q.seenTotal nans) ∧
    (r.seenTotal nans = q.seenTotal nans → ¬ (r.seenUnitPrice nans).Precedes (q.seenUnitPrice nans) ∧
    (r.seenUnitPrice nans = q.seenUnitPrice nans → ¬ (r.seenBilled nans).Precedes (q.seenBilled nans) ∧
    (r.seenBilled nans = q.seenBilled nans → q.tier ≤ r.tier))) := by
  have hlt (m n : Number.NaN) (x y : Float) :
      (Total.ofFloat m x).rank < (Total.ofFloat n y).rank ↔ (Total.ofFloat m x).Precedes (.ofFloat n y) :=
    Total.rank_lt_rank (Total.proper_ofFloat m x) (Total.proper_ofFloat n y)
  have heq (m n : Number.NaN) (x y : Float) :
      (Total.ofFloat m x).rank = (Total.ofFloat n y).rank ↔ Total.ofFloat m x = .ofFloat n y :=
    ⟨Total.eq_of_rank (Total.proper_ofFloat m x) (Total.proper_ofFloat n y), congrArg Total.rank⟩
  rw [← not_lt]
  simp only [place, charge, seenTotal, seenUnitPrice, seenBilled, Prod.Lex.toLex_lt_toLex, toLex_inj, Prod.mk.injEq,
    hlt, heq]
  rw [← not_lt]
  tauto

theorem charge_le_charge (h : p.place nans ≤ q.place nans) : p.charge nans ≤ q.charge nans := by
  rcases Prod.Lex.toLex_le_toLex.1 h with h | ⟨h, -⟩
  · exact h.le
  · exact h.le

/-- What is charged is told by how it is compared. -/
theorem eq_of_charge (h : q.charge nans = r.charge nans') :
    q.total = r.total ∧ q.unitPrice = r.unitPrice ∧ q.billed = r.billed := by
  have heq {m n : Number.NaN} {x y : Float} (h : (Total.ofFloat m x).rank = (Total.ofFloat n y).rank) : x = y :=
    Total.ofFloat_inj (Total.eq_of_rank (Total.proper_ofFloat m x) (Total.proper_ofFloat n y) h)
  exact ⟨heq (congrArg (fun c => (ofLex c).1) h), heq (congrArg (fun c => (ofLex (ofLex c).2).1) h),
    heq (congrArg (fun c => (ofLex (ofLex c).2).2) h)⟩

/-- Without NaNs the machine has no part in what a quote charges. -/
theorem charge_of_not_isNaN (hq : q.total = q.billed * q.unitPrice) (h : q.total.isNaN = false) :
    q.charge nans = toLex (rank q.total, toLex (rank q.unitPrice, rank q.billed)) := by
  have hfactors : q.billed.isNaN = false ∧ q.unitPrice.isNaN = false := by
    rw [← Bool.not_eq_true, ← Bool.not_eq_true, ← not_or]
    intro hnan
    rw [hq, isNaN_mul hnan] at h
    cases h
  simp only [charge, seenTotal, seenUnitPrice, seenBilled, Total.ofFloat, h, hfactors]
  rfl

theorem least_eq_none_iff : least nans quotes = none ↔ quotes = [] := by
  cases quotes with
  | nil => simp [least]
  | cons q rest =>
      rw [least]
      cases least nans rest <;> simp

/-- **The least of some quotes** is one of them, and none comes before it. -/
theorem least_spec (h : least nans quotes = some q) : q ∈ quotes ∧ ∀ r ∈ quotes, q.place nans ≤ r.place nans := by
  induction quotes generalizing q with
  | nil => cases h
  | cons p rest ih =>
      rw [least] at h
      cases hrest : least nans rest with
      | none =>
          rw [hrest] at h
          obtain rfl := Option.some.inj h
          rw [least_eq_none_iff.1 hrest]
          exact ⟨List.mem_cons_self, List.forall_mem_singleton.2 le_rfl⟩
      | some r =>
          rw [hrest] at h
          obtain rfl := Option.some.inj h
          obtain ⟨hmem, hleast⟩ := ih hrest
          split
          · next hbefore =>
              have hlt := before_iff.1 hbefore
              exact ⟨List.mem_cons_of_mem _ hmem, List.forall_mem_cons.2 ⟨hlt.le, hleast⟩⟩
          · next hbefore =>
              have hle : p.place nans ≤ r.place nans := not_lt.1 (mt before_iff.2 hbefore)
              exact ⟨List.mem_cons_self, List.forall_mem_cons.2 ⟨le_rfl, fun r' hr' => hle.trans (hleast r' hr')⟩⟩

/-! ### The quotes of a quantity -/

/-- A quote that a quantity can be priced by: that of a tier at or above it, which bills the quantity or the floor of
the tier, whichever is larger; a quantity that is no number is passed over. -/
def Usable (quantity : Float) (tiers : List PriceTier) (q : Quote) : Prop :=
  ∃ t, tiers[q.tier]? = some t ∧ t.coversOrExceeds quantity ∧ q.unitPrice = t.price ∧
    q.billed = (if quantity.isNaN ∨ quantity < t.quantityFrom then t.quantityFrom else quantity) ∧
    q.total = q.billed * q.unitPrice

variable {quantity : Float} {tiers : List PriceTier}

theorem usable_iff : Usable quantity tiers q ↔
    ∃ t i, tiers[i]? = some t ∧ t.coversOrExceeds quantity ∧ ofTier quantity i t = q := by
  have hlarger (t : PriceTier) : (if quantity.isNaN ∨ quantity < t.quantityFrom then t.quantityFrom else quantity) =
      Number.larger quantity t.quantityFrom := by
    unfold Number.larger
    split <;> grind
  simp only [Usable, hlarger]
  constructor
  · rintro ⟨t, htier, hcovers, hprice, hbilled, htotal⟩
    refine ⟨t, q.tier, htier, hcovers, ?_⟩
    rw [ofTier, ← hbilled, ← hprice, ← htotal]
  · rintro ⟨t, i, htier, hcovers, rfl⟩
    exact ⟨t, htier, hcovers, rfl, rfl, rfl⟩

theorem Usable.total_eq (hq : Usable quantity tiers q) : q.total = q.billed * q.unitPrice := by
  obtain ⟨_, -, -, -, -, htotal⟩ := hq
  exact htotal

theorem mem_usableQuotes : q ∈ usableQuotes quantity tiers ↔ Usable quantity tiers q := by
  rw [usable_iff]
  simp [usableQuotes, List.mem_zipIdx_iff_getElem?, and_assoc]

/-- Of two quotes that a quantity can be priced by, one comes before the other. -/
theorem Usable.eq_of_place (hq : Usable quantity tiers q) (hr : Usable quantity tiers r)
    (h : q.place nans = r.place nans) : q = r := by
  have htier : q.tier = r.tier := congrArg (fun p => (ofLex p).2) h
  obtain ⟨t, i, hi, -, rfl⟩ := usable_iff.1 hq
  obtain ⟨u, j, hj, -, rfl⟩ := usable_iff.1 hr
  obtain rfl : i = j := htier
  rw [Option.some.inj (hi.symm.trans hj)]

/-- The tiers in another order, each with its NaNs, give the same quotes but for the places of the tiers. -/
theorem Usable.of_perm {others : List PriceTier} (hq : Usable quantity tiers q)
    (hperm : (tiers.mapIdx fun i t => (t, nans i)).Perm (others.mapIdx fun i t => (t, nans' i))) :
    ∃ r, Usable quantity others r ∧ r.charge nans' = q.charge nans := by
  obtain ⟨t, htier, hquote⟩ := hq
  obtain ⟨hlt, htier⟩ := List.getElem?_eq_some_iff.1 htier
  have hmem : (t, nans q.tier) ∈ tiers.mapIdx fun i t => (t, nans i) :=
    List.mem_mapIdx.2 ⟨q.tier, hlt, by rw [htier]⟩
  obtain ⟨i, hi, hpair⟩ := List.mem_mapIdx.1 (hperm.mem_iff.1 hmem)
  obtain ⟨hother, hnans⟩ := Prod.mk.inj hpair
  refine ⟨{ q with tier := i }, ⟨t, List.getElem?_eq_some_iff.2 ⟨hi, hother⟩, hquote⟩, ?_⟩
  simp only [charge, seenTotal, seenUnitPrice, seenBilled, hnans]

/-- Tiers that are among others give quotes that these give too, but for the places of the tiers. -/
theorem Usable.of_subset {others : List PriceTier} (hq : Usable quantity tiers q) (hsubset : tiers ⊆ others) :
    ∃ i, Usable quantity others { q with tier := i } := by
  obtain ⟨t, htier, hquote⟩ := hq
  obtain ⟨i, hi⟩ := List.mem_iff_getElem?.1 (hsubset (List.mem_of_getElem? htier))
  exact ⟨i, t, hi, hquote⟩

end Quote

open Quote

/-! ### The cheapest quote -/

section

variable [Machine] {quantity : Float} {tiers : List PriceTier} {q r : Quote}

theorem selectTier_eq_none_iff_forall :
    selectTier .cheapest quantity tiers = none ↔ ∀ q, ¬ Usable quantity tiers q := by
  rw [selectTier, least_eq_none_iff, List.eq_nil_iff_forall_not_mem]
  exact forall_congr' fun _ => not_congr mem_usableQuotes

theorem selectTier_eq_none_iff :
    selectTier .cheapest quantity tiers = none ↔ ∀ t ∈ tiers, t.coversOrExceeds quantity = false := by
  rw [selectTier_eq_none_iff_forall]
  constructor
  · intro h t ht
    obtain ⟨i, hi⟩ := List.mem_iff_getElem?.1 ht
    exact Bool.eq_false_iff.2 fun hcovers => h _ (usable_iff.2 ⟨t, i, hi, hcovers, rfl⟩)
  · rintro h q ⟨t, htier, hcovers, -⟩
    exact Bool.noConfusion (hcovers.symm.trans (h t (List.mem_of_getElem? htier)))

theorem selectTier_eq_some_iff : selectTier .cheapest quantity tiers = some q ↔ Usable quantity tiers q ∧
    ∀ r, Usable quantity tiers r → q.place (Machine.nans quantity tiers) ≤ r.place (Machine.nans quantity tiers) := by
  have hleast {p : Quote} (h : selectTier .cheapest quantity tiers = some p) : Usable quantity tiers p ∧
      ∀ r, Usable quantity tiers r → p.place (Machine.nans quantity tiers) ≤ r.place (Machine.nans quantity tiers) := by
    obtain ⟨hmem, hfirst⟩ := least_spec h
    exact ⟨mem_usableQuotes.1 hmem, fun r hr => hfirst r (mem_usableQuotes.2 hr)⟩
  refine ⟨hleast, fun ⟨hq, hfirst⟩ => ?_⟩
  cases hselect : selectTier .cheapest quantity tiers with
  | none => exact absurd hq (selectTier_eq_none_iff_forall.1 hselect q)
  | some p =>
      obtain ⟨hp, hpfirst⟩ := hleast hselect
      rw [hp.eq_of_place hq (le_antisymm (hpfirst q hq) (hfirst p hp))]

/-- **No other quote has a smaller total.** -/
theorem not_total_lt_of_selectTier (h : selectTier .cheapest quantity tiers = some q)
    (hr : Usable quantity tiers r) : ¬ r.total < q.total := by
  intro hlt
  obtain ⟨hrtotal, hqtotal⟩ := not_isNaN_of_lt hlt
  refine (place_le_place_iff.1 ((selectTier_eq_some_iff.1 h).2 r hr)).1 ?_
  rw [seenTotal, seenTotal, Total.ofFloat, Total.ofFloat, hrtotal, hqtotal]
  exact .number hlt

end

/-! ### Tiers in another order -/

/-- Each quote by the first tiers charges what some quote by the second tiers does. -/
def ChargedBy (machine machine' : Machine) (quantity : Float) (tiers others : List PriceTier) : Prop :=
  ∀ q, Usable quantity tiers q → ∃ r, Usable quantity others r ∧
    r.charge (machine'.nans quantity others) = q.charge (machine.nans quantity tiers)

section

variable {machine machine' : Machine} {quantity : Float} {tiers others : List PriceTier} {q r : Quote}

theorem chargedBy_of_perm (hperm : (tiers.mapIdx fun i t => (t, machine.nans quantity tiers i)).Perm
    (others.mapIdx fun i t => (t, machine'.nans quantity others i))) :
    ChargedBy machine machine' quantity tiers others :=
  fun _ hq => hq.of_perm hperm

theorem chargedBy_of_subset (hsubset : tiers ⊆ others) (h : ∀ q, Usable quantity tiers q → q.total.isNaN = false) :
    ChargedBy machine machine' quantity tiers others := by
  intro q hq
  have htotal := hq.total_eq
  obtain ⟨i, hi⟩ := hq.of_subset hsubset
  refine ⟨_, hi, ?_⟩
  rw [charge_of_not_isNaN htotal (h q hq), charge_of_not_isNaN hi.total_eq (h q hq)]

theorem ChargedBy.eq_none (h : ChargedBy machine machine' quantity tiers others)
    (hnone : @selectTier machine' .cheapest quantity others = none) :
    @selectTier machine .cheapest quantity tiers = none := by
  refine (@selectTier_eq_none_iff_forall machine _ _).2 fun q hq => ?_
  obtain ⟨r, hr, -⟩ := h q hq
  exact (@selectTier_eq_none_iff_forall machine' _ _).1 hnone r hr

theorem ChargedBy.charge_le (h : ChargedBy machine' machine quantity others tiers)
    (hq : @selectTier machine .cheapest quantity tiers = some q)
    (hr : @selectTier machine' .cheapest quantity others = some r) :
    q.charge (machine.nans quantity tiers) ≤ r.charge (machine'.nans quantity others) := by
  obtain ⟨p, hp, hcharge⟩ := h r (@selectTier_eq_some_iff machine' _ _ _ |>.1 hr).1
  exact (charge_le_charge ((@selectTier_eq_some_iff machine _ _ _ |>.1 hq).2 p hp)).trans_eq hcharge

/-- **The cheapest quotes charge the same** if each quote by the tiers of one list charges what one by those of the other
does. -/
theorem ChargedBy.charges_eq (h : ChargedBy machine machine' quantity tiers others)
    (h' : ChargedBy machine' machine quantity others tiers) :
    (@selectTier machine .cheapest quantity tiers).map (fun q => (q.total, q.unitPrice, q.billed)) =
      (@selectTier machine' .cheapest quantity others).map fun q => (q.total, q.unitPrice, q.billed) := by
  cases hq : @selectTier machine .cheapest quantity tiers with
  | none => rw [h'.eq_none hq]
  | some q =>
      cases hr : @selectTier machine' .cheapest quantity others with
      | none => exact absurd (hq.symm.trans (h.eq_none hr)) nofun
      | some r =>
          obtain ⟨htotal, hprice, hbilled⟩ := eq_of_charge (le_antisymm (h'.charge_le hq hr) (h.charge_le hr hq))
          rw [Option.map_some, Option.map_some, htotal, hprice, hbilled]

end

/-- **The cheapest quote** of a quantity.  There is none only if every tier ends below the quantity.  Otherwise it is
the quote of a tier at or above the quantity, billed with the quantity or with the floor of the tier, whichever is
larger, and no quote of such a tier comes before it: none has a total that precedes its own or, in case of a tie, such
a unit price, such a billed quantity or an earlier tier.  What it charges stays the same however the tiers, each with
the NaNs of its quote, are arranged, and however they are arranged at all if no total is a NaN. -/
theorem selectTier_cheapest [machine : Machine] (quantity : Float) (tiers : List PriceTier) :
    let nans := machine.nans quantity tiers
    let total (q : Quote) := Total.ofFloat (nans q.tier).total q.total
    let unitPrice (q : Quote) := Total.ofFloat (nans q.tier).unitPrice q.unitPrice
    let billed (q : Quote) := Total.ofFloat (nans q.tier).billed q.billed
    (selectTier .cheapest quantity tiers = none ↔ ∀ t ∈ tiers, t.coversOrExceeds quantity = false) ∧
    (∀ q, selectTier .cheapest quantity tiers = some q ↔ Usable quantity tiers q ∧ ∀ r, Usable quantity tiers r →
      ¬ (total r).Precedes (total q) ∧
      (total r = total q → ¬ (unitPrice r).Precedes (unitPrice q) ∧
      (unitPrice r = unitPrice q → ¬ (billed r).Precedes (billed q) ∧
      (billed r = billed q → q.tier ≤ r.tier)))) ∧
    ∀ (machine' : Machine) (others : List PriceTier),
      ((tiers.mapIdx fun i t => (t, nans i)).Perm (others.mapIdx fun i t => (t, machine'.nans quantity others i)) ∨
        tiers.Perm others ∧ ∀ q, Usable quantity tiers q → q.total.isNaN = false) →
      (@selectTier machine .cheapest quantity tiers).map (fun q => (q.total, q.unitPrice, q.billed)) =
        (@selectTier machine' .cheapest quantity others).map fun q => (q.total, q.unitPrice, q.billed) := by
  refine ⟨selectTier_eq_none_iff, fun q => ?_, ?_⟩
  · exact selectTier_eq_some_iff.trans (and_congr_right fun _ => forall₂_congr fun r _ => place_le_place_iff)
  · rintro machine' others (hperm | ⟨hperm, hnumber⟩)
    · exact (chargedBy_of_perm hperm).charges_eq (chargedBy_of_perm hperm.symm)
    · have hnumber' : ∀ r, Usable quantity others r → r.total.isNaN = false := by
        intro r hr
        obtain ⟨i, hi⟩ := hr.of_subset hperm.symm.subset
        exact hnumber { r with tier := i } hi
      exact (chargedBy_of_subset hperm.subset hnumber).charges_eq (chargedBy_of_subset hperm.symm.subset hnumber')

open Native

/-- Of two tiers with one total, the one with the lower unit price is chosen. -/
example : (selectTier .cheapest 10 [⟨1, none, 10, .currency⟩, ⟨20, none, 5, .currency⟩]).map Quote.tier = some 1 := by
  decide +kernel

end Costing
