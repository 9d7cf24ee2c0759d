import Costing.Proofs.Cost.Items
import Costing.Proofs.Cost.Plain
import Costing.Proofs.Cost.Stops
import Costing.Proofs.Cost.Sums

/-!
# Cost — rolling up level by level

Costs go up a product from level to level: from stages to their item, from items to the bindings that contain them
and to the offer.  `Product.Unfolds` is the product without its levels, the stages met when every item is opened
wherever it is met.

* `Calculation.gathersAt`: the plain cost of an item gathers the stages that the item unfolds to.
* `Product.Unfolds.congr`: what is met depends on the stages of reached items only.
* `OfferRequest.calculate_rollsUp`: whatever a run gives, for the offer and for each of its items, is what can be
  read off the stages met by unfolding.
-/

namespace Costing

open CostRecord (Gathers)

/-! ### Unfolding -/

namespace Product

variable {β : Type} {p : Product} {own : ItemRef → List β}

/-- What is met when items are opened in order: in each what it contains, and then its own; an unknown item holds
nothing. -/
inductive Unfolds (p : Product) (own : ItemRef → List β) : List ItemRef → List β → Prop where
  | nil : Unfolds p own [] []
  | unknown {ref : ItemRef} {refs : List ItemRef} {met : List β} :
      p.item? ref = none → Unfolds p own refs met → Unfolds p own (ref :: refs) met
  | item {ref : ItemRef} {refs : List ItemRef} {item : Item} {inside met : List β} :
      p.item? ref = some item → Unfolds p own item.children inside → Unfolds p own refs met →
      Unfolds p own (ref :: refs) (inside ++ own ref ++ met)

namespace Unfolds

/-- Items are unfolded in one way. -/
theorem unique {refs : List ItemRef} {met other : List β} (h : p.Unfolds own refs met)
    (hother : p.Unfolds own refs other) : met = other := by
  induction h generalizing other with
  | nil =>
      cases hother
      rfl
  | unknown hi _ ih =>
      cases hother with
      | unknown _ hrest => exact ih hrest
      | item hi' => exact absurd (hi.symm.trans hi') nofun
  | item hi _ _ ihinside ihrest =>
      cases hother with
      | unknown hi' => exact absurd (hi.symm.trans hi') nofun
      | item hi' hinside hrest =>
          obtain rfl := Option.some.inj (hi.symm.trans hi')
          rw [ihinside hinside, ihrest hrest]

/-- **What is met** depends on what reached items own. -/
theorem congr {own' : ItemRef → List β} {refs : List ItemRef} {met : List β} (h : p.Unfolds own refs met)
    (hsame : ∀ ref item, p.Reaches ref → p.item? ref = some item → own ref = own' ref)
    (hreach : ∀ ref ∈ refs, p.Reaches ref) : p.Unfolds own' refs met := by
  induction h with
  | nil => exact .nil
  | unknown hi _ ih => exact .unknown hi (ih (List.forall_mem_cons.1 hreach).2)
  | item hi _ _ ihinside ihrest =>
      obtain ⟨href, hrest⟩ := List.forall_mem_cons.1 hreach
      rw [hsame _ _ href hi]
      exact .item hi (ihinside fun child hc => .child href hi hc) (ihrest hrest)

end Unfolds

end Product

/-! ### Plain costs -/

namespace Calculation

variable {α : Type}

/-- The costs of the own stages of an item, each computed afresh. -/
def ownCosts (c : Calculation α) (ref : ItemRef) : List (CostRecord α) :=
  (c.freshStages [] (c.product.stagesOf ref)).map StageResult.cost

variable [Add α] {c : Calculation α}

/-- The total of a stage is that of its two costs. -/
def TotalsAdd (c : Calculation α) : Prop :=
  ∀ stage done cache, let cost := (c.costStage stage done cache).1.1.cost
    cost.totalCost = addCosts cost.operationCost cost.materialCost

theorem TotalsAdd.freshStages (h : c.TotalsAdd) {done : List (StageResult α)} {stages : List Stage} :
    ∀ result ∈ c.freshStages done stages,
      result.cost.totalCost = addCosts result.cost.operationCost result.cost.materialCost := by
  induction stages generalizing done with
  | nil => exact nofun
  | cons stage rest ih =>
      rw [Calculation.freshStages, List.forall_mem_cons]
      exact ⟨h stage done .empty, ih⟩

/-- Unfolding keeps to what the stages say of themselves. -/
theorem TotalsAdd.unfolds (h : c.TotalsAdd) {refs : List ItemRef} {met : List (CostRecord α)}
    (hmet : c.product.Unfolds c.ownCosts refs met) :
    ∀ stage ∈ met, stage.totalCost = addCosts stage.operationCost stage.materialCost := by
  induction hmet with
  | nil => exact nofun
  | unknown _ _ ih => exact ih
  | item _ _ _ ihinside ihrest =>
      rw [List.forall_mem_append, List.forall_mem_append, ownCosts, List.forall_mem_map]
      exact ⟨⟨ihinside, h.freshStages⟩, ihrest⟩

/-- An item whose plain cost gathers the stages that it unfolds to. -/
def GathersAt (c : Calculation α) (ref : ItemRef) (h : Acc c.product.Inside ref) : Prop :=
  ∃ met, c.product.Unfolds c.ownCosts [ref] met ∧ ∀ cost, c.plainCost ref h = some cost → cost.Gathers met

/-- Items one after the other. -/
theorem exists_unfolds_of_each {refs : List ItemRef} (h : ∀ ref ∈ refs, Acc c.product.Inside ref)
    (heach : ∀ ref (hm : ref ∈ refs), c.GathersAt ref (h ref hm)) :
    ∃ rows, c.product.Unfolds c.ownCosts refs rows.flatten ∧ List.Forall₂ Gathers (c.plainCosts refs h) rows := by
  induction refs with
  | nil => exact ⟨[], .nil, .nil⟩
  | cons ref rest ih =>
      obtain ⟨href, hrest⟩ := List.forall_mem_cons.1 h
      obtain ⟨rows, hmet, hrows⟩ := ih hrest fun other hm => heach other (List.mem_cons_of_mem _ hm)
      obtain ⟨met, hone, hcost⟩ := heach ref List.mem_cons_self
      cases hone with
      | unknown hi _ =>
          refine ⟨rows, .unknown hi hmet, ?_⟩
          rw [plainCosts_cons_of_none (plainCost_of_none hi href) hrest]
          exact hrows
      | @item _ _ item inside nothing hi hinside hnothing =>
          cases hnothing
          have hknown := plainCost_of_some hi href fun child hc => href.inv ⟨item, hi, hc⟩
          refine ⟨(inside ++ c.ownCosts ref ++ []) :: rows, ?_, ?_⟩
          · rw [List.flatten_cons, List.append_nil]
            exact .item hi hinside hmet
          · rw [plainCosts_cons_of_some hknown hrest]
            exact .cons (hcost _ hknown) hrows

/-- **A plain cost gathers what its item unfolds to.** -/
theorem gathersAt (hc : c.TotalsAdd) {ref : ItemRef} (h : Acc c.product.Inside ref) : c.GathersAt ref h := by
  induction h with
  | intro ref hacc ih =>
      cases hi : c.product.item? ref with
      | none =>
          refine ⟨[], .unknown hi .nil, fun cost hcost => ?_⟩
          rw [plainCost_of_none hi] at hcost
          cases hcost
      | some item =>
          have hinside : ∀ child ∈ item.children, Acc c.product.Inside child :=
            fun child hm => hacc child ⟨item, hi, hm⟩
          obtain ⟨rows, hmet, hrows⟩ := exists_unfolds_of_each hinside fun child hm => ih child ⟨item, hi, hm⟩
          refine ⟨rows.flatten ++ c.ownCosts ref ++ [], .item hi hmet .nil, fun cost hcost => ?_⟩
          rw [plainCost_of_some hi (.intro ref hacc) hinside] at hcost
          cases hcost
          rw [List.append_nil, ownCosts, Product.stagesOf_of_some hi]
          refine Gathers.aggregate_append hrows ?_
          rw [List.forall_mem_map]
          exact hc.freshStages

end Calculation

/-! ### Results -/

section

variable {α : Type}

/-- The costs that a result has of the stages of an item. -/
def Rollup.stageCosts (costs : Rollup α) (ref : ItemRef) : List (CostRecord α) :=
  let item? := match ref.kind with
    | .detail => costs.details.get? ref.id
    | .binding => costs.bindings.get? ref.id
  (item?.elim [] ItemResult.stages).map StageResult.cost

variable [Add α] {c : Calculation α}

theorem stageCosts_rollup {costs : List (CostRecord α)} {w : Walk α} {ref : ItemRef} {result : ItemResult α}
    (h : w.result? ref = some result) : (c.rollup costs w).stageCosts ref = result.stages.map StageResult.cost := by
  obtain ⟨kind, id⟩ := ref
  cases kind <;> exact congrArg (fun item? => (item?.elim [] ItemResult.stages).map StageResult.cost) h

variable [OfNat α 0]

namespace Calculation

/-- A result has the costs of the own stages of each reached item. -/
theorem Visits.stageCosts {steps : Nat} {cache : Formula.Cache} {costs : List (CostRecord α)} {w : Walk α}
    (hv : c.Visits [] c.product.topLevel (.start steps cache) costs w) {ref : ItemRef} {item : Item}
    (hreach : c.product.Reaches ref) (hi : c.product.item? ref = some item) :
    c.ownCosts ref = (c.rollup costs w).stageCosts ref := by
  have hcosted := (hv.isSome_result?_iff ref).2 ⟨by rw [hi]; rfl, hreach⟩
  obtain ⟨result, hresult⟩ := Option.isSome_iff_exists.1 hcosted
  have hrec : c.Recorded w := hv.recorded (Walk.allResults_start _ _ _)
  obtain ⟨item', parts, hi', rfl⟩ := hrec ref result hresult
  obtain rfl := Option.some.inj (hi.symm.trans hi')
  rw [stageCosts_rollup hresult, Item.result_stages, ownCosts, Product.stagesOf_of_some hi]

/-- **A run rolls up what its product unfolds to**, as a whole and in each item. -/
theorem Visits.rollsUp (hc : c.TotalsAdd) {steps : Nat} {cache : Formula.Cache} {costs : List (CostRecord α)}
    {w : Walk α} (hv : c.Visits [] c.product.topLevel (.start steps cache) costs w)
    (hroots : ∀ ref ∈ c.product.topLevel, Acc c.product.Inside ref) :
    (∃ met, c.product.Unfolds (c.rollup costs w).stageCosts c.product.topLevel met ∧
      (CostRecord.aggregate costs).RollsUp met) ∧
    ∀ ref result, w.result? ref = some result →
      ∃ met, c.product.Unfolds (c.rollup costs w).stageCosts [ref] met ∧ result.cost.RollsUp met := by
  obtain ⟨hremembers, hcosts⟩ := hv.plain hroots (fun _ _ => nofun) (Walk.allResults_start _ _ _)
  have hsame : ∀ ref item, c.product.Reaches ref → c.product.item? ref = some item →
      c.ownCosts ref = (c.rollup costs w).stageCosts ref := fun _ _ hreach hi => hv.stageCosts hreach hi
  constructor
  · obtain ⟨rows, hmet, hrows⟩ := exists_unfolds_of_each hroots fun ref hm => gathersAt hc (hroots ref hm)
    refine ⟨rows.flatten, hmet.congr hsame fun _ hr => .root hr, ?_⟩
    rw [hcosts]
    exact (Gathers.aggregate hrows).rollsUp (hc.unfolds hmet)
  · intro ref result hresult
    obtain ⟨hacc, hplain⟩ := hremembers ref result hresult
    obtain ⟨met, hmet, hgathers⟩ := gathersAt hc hacc
    have hreach : c.product.Reaches ref := ((hv.isSome_result?_iff ref).1 (by rw [hresult]; rfl)).2
    refine ⟨met, hmet.congr hsame fun other hm => ?_, (hgathers _ hplain).rollsUp (hc.unfolds hmet)⟩
    rw [List.mem_singleton.1 hm]
    exact hreach

end Calculation

end

/-! ### Offers -/

namespace OfferRequest

theorem totalsAdd_calculation [Platform] (r : OfferRequest) (stopAfter : Option Nat) : (r.calculation stopAfter).TotalsAdd :=
  fun _ _ _ => rfl

/-- **Rolling up level by level is rolling up at once.**  An offer that reaches no cycle is calculated, and whatever a
run gives, stopped or not, its total rolls up the stage costs met by unfolding the top level, and so does each costed
detail and binding with what it unfolds to. -/
theorem calculate_rollsUp [Platform] (r : OfferRequest) (cache : Formula.Cache) (h : r.product.Acyclic) :
    (∃ result, r.calculate none cache = .ok result) ∧
    ∀ stopAfter result, r.calculate stopAfter cache = .ok result →
      (∃ met, r.product.Unfolds result.costs.stageCosts r.product.topLevel met ∧
        result.costs.total.RollsUp met) ∧
      (∀ id item, result.costs.details.get? id = some item →
        ∃ met, r.product.Unfolds result.costs.stageCosts [⟨.detail, id⟩] met ∧ item.cost.RollsUp met) ∧
      (∀ id item, result.costs.bindings.get? id = some item →
        ∃ met, r.product.Unfolds result.costs.stageCosts [⟨.binding, id⟩] met ∧ item.cost.RollsUp met) := by
  refine ⟨?_, fun stopAfter result hcalc => ?_⟩
  · obtain ⟨_, _, result, -, hcalc, -⟩ := r.exists_calculate cache
    exact ⟨result, hcalc⟩
  · rw [calculate_eq_map] at hcalc
    cases hvisit : (r.calculation stopAfter).visitRoots r.product.topLevel (.start r.product.countSteps cache) with
    | error cancelled => rw [hvisit] at hcalc; cases hcalc
    | ok reached =>
        rw [hvisit] at hcalc
        cases hcalc
        have hroots : ∀ ref ∈ r.product.topLevel, Acc r.product.Inside ref := fun _ hr => h.acc (.root hr)
        obtain ⟨htotal, hitems⟩ :=
          (Calculation.visitRoots_visits hvisit).rollsUp (r.totalsAdd_calculation stopAfter) hroots
        exact ⟨htotal, fun id => hitems ⟨.detail, id⟩, fun id => hitems ⟨.binding, id⟩⟩

open Native

/-- In the sample, the total rolls up the stages of the shared detail twice. -/
theorem calculate_rollsUp_sharedSheet :
    ∃ result, sharedSheet.calculate none .empty = .ok result ∧
      let stages := result.costs.stageCosts
      result.costs.total.RollsUp (stages ⟨.detail, "sheet"⟩ ++
        (stages ⟨.detail, "sheet"⟩ ++ stages ⟨.binding, "cover"⟩) ++ stages ⟨.binding, "book"⟩) := by
  obtain ⟨⟨result, hcalc⟩, hrolls⟩ := calculate_rollsUp sharedSheet .empty acyclic_sharedSheet
  obtain ⟨⟨met, hmet, htotal⟩, -, -⟩ := hrolls none result hcalc
  have hcover : sharedSheet.product.Unfolds result.costs.stageCosts [⟨.binding, "cover"⟩] _ :=
    .item rfl (.item rfl .nil .nil) .nil
  have hbook : sharedSheet.product.Unfolds result.costs.stageCosts sharedSheet.product.topLevel _ :=
    .item rfl (.item rfl .nil (.unknown rfl hcover)) .nil
  rw [hmet.unique hbook] at htotal
  exact ⟨result, hcalc, by simpa using htotal⟩

end OfferRequest

end Costing
