import Costing.Native
import Costing.Proofs.Cost.Runs
import Costing.Proofs.Product.Cycle
import Mathlib.Data.List.ReduceOption

/-!
# Cost — the plain recursion

`Calculation.plainCost` is the cost of an item as it would be computed without remembering anything:
the sum of the costs of the known items that it contains, in order, and then of its own stages, all
computed anew wherever they are met.  It is defined where going further inside comes to an end.

**The walk remembers right** (`Visits.plain`).  A walk over items from which every descent ends meets no
ancestor, so whatever it remembers is a plain cost, and so is whatever it takes from there; it does not
matter from which parent an item is reached first.

`calculate_plain` says so of an offer that reaches no cycle.  The sum of two amounts is never looked
into.
-/

namespace Costing

open Product (Inside)

variable {α : Type}

namespace Calculation

/-! ### The recursion -/

section

variable [Add α]

/-- The cost of an item, computed anew from what it contains and from its stages; an unknown item has
none. -/
def plainCost (c : Calculation α) (ref : ItemRef) (h : Acc c.product.Inside ref) :
    Option (CostRecord α) :=
  match hi : c.product.item? ref with
  | none => none
  | some item =>
    some (.aggregate ((item.children.pmap (fun child (hc : c.product.Inside child ref) =>
        c.plainCost child (h.inv hc)) fun _ hc => ⟨item, hi, hc⟩).reduceOption ++
      (c.freshStages [] item.stages).map StageResult.cost))
termination_by (⟨ref, h⟩ : { ref // Acc c.product.Inside ref })
decreasing_by exact hc

/-- The costs of the known ones among some items, in order. -/
def plainCosts (c : Calculation α) (refs : List ItemRef) (h : ∀ ref ∈ refs, Acc c.product.Inside ref) :
    List (CostRecord α) :=
  (refs.pmap c.plainCost h).reduceOption

variable {c : Calculation α}

theorem plainCost_of_none {ref : ItemRef} (hi : c.product.item? ref = none)
    (h : Acc c.product.Inside ref) : c.plainCost ref h = none := by
  rw [plainCost]
  split
  · rfl
  · next hi' => rw [hi] at hi'; cases hi'

theorem plainCost_of_some {ref : ItemRef} {item : Item} (hi : c.product.item? ref = some item)
    (h : Acc c.product.Inside ref) (hc : ∀ child ∈ item.children, Acc c.product.Inside child) :
    c.plainCost ref h = some (.aggregate (c.plainCosts item.children hc ++
      (c.freshStages [] item.stages).map StageResult.cost)) := by
  rw [plainCost]
  split
  · next hi' => rw [hi] at hi'; cases hi'
  · next item' hi' =>
      rw [hi] at hi'; cases hi'
      have hparts : item.children.pmap (fun child (hin : c.product.Inside child ref) =>
            c.plainCost child (h.inv hin)) (fun _ hm => ⟨item, hi, hm⟩) =
          item.children.pmap c.plainCost hc :=
        List.pmap_congr_left _ fun _ _ _ _ => rfl
      rw [hparts, plainCosts]

theorem plainCosts_cons_of_some {ref : ItemRef} {refs : List ItemRef} {cost : CostRecord α}
    {h : Acc c.product.Inside ref} (hc : c.plainCost ref h = some cost)
    (hs : ∀ r ∈ refs, Acc c.product.Inside r) :
    c.plainCosts (ref :: refs) (List.forall_mem_cons.2 ⟨h, hs⟩) = cost :: c.plainCosts refs hs := by
  rw [plainCosts, List.pmap_cons, hc, List.reduceOption_cons_of_some]
  rfl

theorem plainCosts_cons_of_none {ref : ItemRef} {refs : List ItemRef}
    {h : Acc c.product.Inside ref} (hc : c.plainCost ref h = none)
    (hs : ∀ r ∈ refs, Acc c.product.Inside r) :
    c.plainCosts (ref :: refs) (List.forall_mem_cons.2 ⟨h, hs⟩) = c.plainCosts refs hs := by
  rw [plainCosts, List.pmap_cons, hc, List.reduceOption_cons_of_none]
  rfl

end

/-! ### What a walk remembers -/

variable [Add α]

/-- Whatever is remembered of an item is its plain cost. -/
def Remembers (c : Calculation α) (w : Walk α) : Prop :=
  w.AllResults fun ref result => ∃ h : Acc c.product.Inside ref, c.plainCost ref h = some result.cost

variable [OfNat α 0] {c : Calculation α}

/-- Of an item from which every descent ends, whatever a walk remembers is the plain cost. -/
def PlainWhereEnds (c : Calculation α) (w : Walk α) : Prop :=
  w.AllResults fun ref result => ∀ h : Acc c.product.Inside ref, c.plainCost ref h = some result.cost

/-- **The walk remembers right** wherever a descent ends, also beside items on a cycle, and it gives the
plain costs of its items if every descent from them ends. -/
theorem Visits.plainWhereEnds {ancestors items : List ItemRef} {w w' : Walk α}
    {costs : List (CostRecord α)} (h : c.Visits ancestors items w costs w')
    (hu : c.product.Under ancestors items) (hw : c.PlainWhereEnds w) :
    c.PlainWhereEnds w' ∧
      ∀ ha : ∀ ref ∈ items, Acc c.product.Inside ref, costs = c.plainCosts items ha := by
  induction h with
  | nil => exact ⟨hw, fun _ => rfl⟩
  | cycle inside _ ih =>
      refine ⟨(ih hu.tail hw).1, fun ha => ?_⟩
      -- An ancestor would be inside itself, and the descent from it would not end.
      have href := (List.forall_mem_cons.1 ha).1
      exact absurd (hu _ List.mem_cons_self _ inside) (Product.not_rel_self_of_acc href.transGen)
  | done _ costed _ ih =>
      obtain ⟨hw', hcosts⟩ := ih hu.tail hw
      refine ⟨hw', fun ha => ?_⟩
      obtain ⟨href, hrest⟩ := List.forall_mem_cons.1 ha
      rw [hcosts hrest]
      exact (plainCosts_cons_of_some (hw _ _ costed href) hrest).symm
  | unknown _ _ unknown _ ih =>
      obtain ⟨hw', hcosts⟩ := ih hu.tail hw
      refine ⟨hw', fun ha => ?_⟩
      obtain ⟨href, hrest⟩ := List.forall_mem_cons.1 ha
      rw [hcosts hrest]
      exact (plainCosts_cons_of_none (plainCost_of_none unknown href) hrest).symm
  | @visit _ _ ref item _ _ _ _ parts _ stages _ _ known _ own _ ihchildren ihtail =>
      obtain ⟨hw₁, hparts⟩ := ihchildren (hu.children known) hw
      have hcost : ∀ href : Acc c.product.Inside ref,
          c.plainCost ref href = some (item.result parts stages).cost := fun href => by
        have hinside : ∀ child ∈ item.children, Acc c.product.Inside child := fun child hc =>
          href.inv ⟨_, known, hc⟩
        rw [plainCost_of_some known href hinside, ← hparts hinside, Item.result_cost,
          (visitStages_ok own).1, List.nil_append]
      obtain ⟨hw', hcosts⟩ := ihtail hu.tail (hw₁.put (result?_visitStages own) hcost)
      refine ⟨hw', fun ha => ?_⟩
      obtain ⟨href, hrest⟩ := List.forall_mem_cons.1 ha
      rw [hcosts hrest]
      exact (plainCosts_cons_of_some (hcost href) hrest).symm

/-- **The walk remembers right**, and gives the plain costs of its items, if every descent from them
ends. -/
theorem Visits.plain {ancestors items : List ItemRef} {w w' : Walk α} {costs : List (CostRecord α)}
    (h : c.Visits ancestors items w costs w') (ha : ∀ ref ∈ items, Acc c.product.Inside ref)
    (hu : c.product.Under ancestors items) (hw : c.Remembers w) :
    c.Remembers w' ∧ costs = c.plainCosts items ha := by
  obtain ⟨hplain, hcosts⟩ := h.plainWhereEnds hu fun ref result hr _ => (hw ref result hr).2
  refine ⟨fun ref result hr => ?_, hcosts ha⟩
  have hacc : Acc c.product.Inside ref := by
    rcases h.within (fun _ _ hp hi _ hc => hp.inv ⟨_, hi, hc⟩) ha (by rw [hr]; rfl) with hold | ⟨-, hin⟩
    · obtain ⟨before, hbefore⟩ := Option.isSome_iff_exists.1 hold
      exact (hw ref before hbefore).1
    · exact hin
  exact ⟨hacc, hplain ref result hr hacc⟩

end Calculation

/-! ### Offers -/

namespace OfferRequest

/-- **Remembering changes nothing.**  An offer that reaches no cycle is calculated, whatever formulas are
read before; every costed item has its plain cost, and the total is that of the plain costs of the top
level. -/
theorem calculate_plain [Platform] (r : OfferRequest) (cache : Formula.Cache) (h : r.product.Acyclic) :
    ∃ result, r.calculate none cache = .ok result ∧
      (∀ id item, result.costs.details.get? id = some item →
        ∃ ha, (r.calculation none).plainCost ⟨.detail, id⟩ ha = some item.cost) ∧
      (∀ id item, result.costs.bindings.get? id = some item →
        ∃ ha, (r.calculation none).plainCost ⟨.binding, id⟩ ha = some item.cost) ∧
      result.costs.total = .aggregate ((r.calculation none).plainCosts r.product.topLevel
        fun _ hr => h.acc (.root hr)) := by
  obtain ⟨costs, w, result, hv, hcalc, hcosts⟩ := r.exists_calculate cache
  have hroots : ∀ ref ∈ r.product.topLevel, Acc r.product.Inside ref := fun _ hr => h.acc (.root hr)
  obtain ⟨hw, rfl⟩ := hv.plain hroots (fun _ _ => nofun) (Walk.allResults_start _ _ _)
  refine ⟨result, hcalc, ?_⟩
  rw [hcosts]
  exact ⟨fun id => hw ⟨.detail, id⟩, fun id => hw ⟨.binding, id⟩, rfl⟩

/-- Two bindings share a detail, one also contains the other, and it names a detail that is missing. -/
def sharedSheet : OfferRequest where
  product :=
    { details := [{ id := "sheet", stages := [{ id := "print", operationPrice := some 2 }] }]
      bindings := [
        { id := "book", detailIds := ["sheet", "ribbon"], bindingIds := ["cover"] },
        { id := "cover", detailIds := ["sheet"], stages := [{ id := "fold" }] }] }

theorem acyclic_sharedSheet : sharedSheet.product.Acyclic :=
  Product.acyclic_of_rank (fun id => if id = "book" then 1 else 0) (by decide)

open Native

theorem calculate_plain_sharedSheet :
    ∃ (h : sharedSheet.product.Acyclic) (result : OfferResult),
      sharedSheet.calculate none .empty = .ok result ∧
      result.costs.total = .aggregate ((sharedSheet.calculation none).plainCosts
        [⟨.binding, "book"⟩] fun _ hr => h.acc (.root hr)) := by
  obtain ⟨result, hcalc, -, -, htotal⟩ := calculate_plain sharedSheet .empty acyclic_sharedSheet
  exact ⟨acyclic_sharedSheet, result, hcalc, htotal⟩

end OfferRequest

end Costing
