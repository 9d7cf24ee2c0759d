import Costing.Proofs.Cost.Runs
import Costing.Proofs.Product.Cycle

/-!
# Cost — the parts of a cost

What the recorded costs of a run are put together from, for every product: what an item contains adds the costs that are
recorded of it, except that on a cycle it adds zero where it is met inside itself.

* `Product.Adds`: what some items add, inside others.
* `Visits.assembled`: **a walk records what such parts and an item's own stages come to**, and gives what its items add.
* `OfferRequest.assembled_of_calculate`: so does a run of an offer, stopped or not, if it has a result.
-/

namespace Costing

variable {α : Type}

/-! ### What items add -/

/-- What some items add to a whole, inside ancestors: an ancestor zero, an unknown item nothing, and any other the cost
that is recorded of it. -/
inductive Product.Adds [OfNat α 0] (p : Product) (recorded : ItemRef → Option (ItemResult α))
    (ancestors : List ItemRef) : List ItemRef → List (CostRecord α) → Prop where
  | nil : Adds p recorded ancestors [] []
  | cycle {ref : ItemRef} {refs : List ItemRef} {parts : List (CostRecord α)} :
      ref ∈ ancestors → Adds p recorded ancestors refs parts → Adds p recorded ancestors (ref :: refs) (.zero :: parts)
  | unknown {ref : ItemRef} {refs : List ItemRef} {parts : List (CostRecord α)} :
      ref ∉ ancestors → p.item? ref = none → Adds p recorded ancestors refs parts →
      Adds p recorded ancestors (ref :: refs) parts
  | costed {ref : ItemRef} {refs : List ItemRef} {result : ItemResult α} {parts : List (CostRecord α)} :
      ref ∉ ancestors → recorded ref = some result → Adds p recorded ancestors refs parts →
      Adds p recorded ancestors (ref :: refs) (result.cost :: parts)

/-- What is recorded besides changes nothing. -/
theorem Product.Adds.mono [OfNat α 0] {p : Product} {recorded more : ItemRef → Option (ItemResult α)}
    (hmore : ∀ ref result, recorded ref = some result → more ref = some result) {ancestors refs : List ItemRef}
    {parts : List (CostRecord α)} (h : p.Adds recorded ancestors refs parts) : p.Adds more ancestors refs parts := by
  induction h with
  | nil => exact .nil
  | cycle inside _ ih => exact .cycle inside ih
  | unknown outside hi _ ih => exact .unknown outside hi ih
  | costed outside hr _ ih => exact .costed outside (hmore _ _ hr) ih

namespace Calculation

/-- Whatever holds of every stage after any others holds of the stages of an item, each costed afresh. -/
theorem forall₂_freshStages {c : Calculation α} {P : Stage → StageResult α → Prop} {stages : List Stage}
    (hP : ∀ stage ∈ stages, ∀ done, P stage (c.costStage stage done .empty).1.1) :
    ∀ done, List.Forall₂ P stages (c.freshStages done stages) := by
  induction stages with
  | nil => exact fun _ => .nil
  | cons stage rest ih =>
      obtain ⟨hstage, hrest⟩ := List.forall_mem_cons.1 hP
      exact fun done => .cons (hstage done) (ih hrest _)

/-! ### What a walk records -/

variable [Add α] [OfNat α 0]

/-- A result is put together from what its item contains, inside ancestors that it is all inside of, and from the stages
of the item. -/
def Assembled (c : Calculation α) (recorded : ItemRef → Option (ItemResult α)) (ref : ItemRef)
    (result : ItemResult α) : Prop :=
  ∃ item ancestors parts, c.product.item? ref = some item ∧ c.product.Under ancestors item.children ∧
    c.product.Adds recorded ancestors item.children parts ∧ result = item.result parts (c.freshStages [] item.stages)

theorem Assembled.mono {c : Calculation α} {recorded more : ItemRef → Option (ItemResult α)}
    (hmore : ∀ ref result, recorded ref = some result → more ref = some result) {ref : ItemRef} {result : ItemResult α}
    (h : c.Assembled recorded ref result) : c.Assembled more ref result := by
  obtain ⟨item, ancestors, parts, hi, hu, hparts, hresult⟩ := h
  exact ⟨item, ancestors, parts, hi, hu, hparts.mono hmore, hresult⟩

/-- Every result is put together from others that are recorded. -/
def AllAssembled (c : Calculation α) (w : Walk α) : Prop :=
  w.AllResults (c.Assembled w.result?)

variable {c : Calculation α}

/-- **A walk records what parts and stages come to**, and it gives what its items add. -/
theorem Visits.assembled {ancestors items : List ItemRef} {w w' : Walk α} {costs : List (CostRecord α)}
    (h : c.Visits ancestors items w costs w') (hu : c.product.Under ancestors items) (hw : c.AllAssembled w) :
    c.AllAssembled w' ∧ c.product.Adds w'.result? ancestors items costs := by
  induction h with
  | nil => exact ⟨hw, .nil⟩
  | cycle inside _ ih =>
      obtain ⟨hw', hcosts⟩ := ih hu.tail hw
      exact ⟨hw', .cycle inside hcosts⟩
  | done outside costed tail ih =>
      obtain ⟨hw', hcosts⟩ := ih hu.tail hw
      exact ⟨hw', .costed outside (tail.result?_mono costed) hcosts⟩
  | unknown outside _ unknown _ ih =>
      obtain ⟨hw', hcosts⟩ := ih hu.tail hw
      exact ⟨hw', .unknown outside unknown hcosts⟩
  | @visit _ _ ref item _ w₁ w₂ _ parts _ stages outside fresh known children own tail ihchildren ihtail =>
      obtain ⟨hw₁, hparts⟩ := ihchildren (hu.children known) hw
      have hnew : w₁.result? ref = none := (children.result?_of_mem List.mem_cons_self).trans fresh
      have hsame : w₂.result? = w₁.result? := result?_visitStages own
      -- What is recorded of other items stays when the item is put.
      have hmore : ∀ other result, w₁.result? other = some result →
          (w₂.put ref (item.result parts stages)).result? other = some result := by
        intro other result hr
        have hne : ref ≠ other := fun e => by rw [← e, hnew] at hr; cases hr
        rw [Walk.result?_put_of_ne _ hne, hsame]
        exact hr
      have hstages : stages = c.freshStages [] item.stages := (visitStages_ok own).1
      have hput : c.AllAssembled (w₂.put ref (item.result parts stages)) :=
        Walk.AllResults.put (fun other result hr => (hw₁ other result hr).mono hmore) hsame
          ⟨item, _, parts, known, hu.children known, hparts.mono hmore, by rw [hstages]⟩
      obtain ⟨hw', hcosts⟩ := ihtail hu.tail hput
      exact ⟨hw', .costed outside (tail.result?_mono (Walk.result?_put_self _ _ _)) hcosts⟩

end Calculation

/-! ### Offers -/

/-- **The parts of an offer's costs.** -/
theorem OfferRequest.assembled_of_calculate [Platform] (r : OfferRequest) {stopAfter : Option Nat} {cache : Formula.Cache}
    {result : OfferResult} (h : r.calculate stopAfter cache = .ok result) :
    (∀ ref item, result.costs.result? ref = some item →
      (r.calculation stopAfter).Assembled result.costs.result? ref item) ∧
    ∃ parts, r.product.Adds result.costs.result? [] r.product.topLevel parts ∧
      result.costs.total = .aggregate parts ∧
      result.prices = SalePrice.table (CostRecord.aggregate parts).totalCost r.options.quantity r.priceTypes := by
  obtain ⟨costs, hrun, h⟩ := exists_of_bind_eq_ok h
  cases h
  obtain ⟨⟨parts, w⟩, hvisit, hrun⟩ := exists_of_bind_eq_ok hrun
  cases hrun
  have hstart : (r.calculation stopAfter).AllAssembled (.start r.product.countSteps cache) :=
    Walk.allResults_start _ _ _
  obtain ⟨hw, hparts⟩ := (Calculation.visitRoots_visits hvisit).assembled (fun _ _ => nofun) hstart
  exact ⟨hw, parts, hparts, rfl, rfl⟩

end Costing
