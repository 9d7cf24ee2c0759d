import Costing.Native
import Costing.Proofs.Cost.Items
import Costing.Proofs.Product.Cover

/-!
# Cost — what an offer without given roots covers

An offer that gives no roots is calculated from the items that no binding lists, so an item is costed if
it is covered by one of them.  An item that is listed may have no way up to the top level: all the ways
may lead into a ring of bindings, each of which another one lists, or to a binding that does not count,
as an earlier one has its id.  What is below is then left out.

`calculate_covers` says which items are costed and that nothing else is left out;
`calculate_leavesOut` shows both ways to be left out.
-/

namespace Costing

open Relation

/-- Without given roots, a walk over the top level costs the declared items that are covered. -/
theorem Calculation.Visits.isSome_result?_iff_covered {α : Type} [Add α] [OfNat α 0] {c : Calculation α}
    (h : c.product.roots = []) {steps : Nat} {cache : Formula.Cache} {w : Walk α}
    {costs : List (CostRecord α)}
    (hv : c.Visits [] c.product.topLevel (.start steps cache) costs w) {ref : ItemRef}
    (hd : ref ∈ c.product.refs) : (w.result? ref).isSome ↔ c.product.Covered ref := by
  rw [hv.isSome_result?_iff, and_iff_right (Product.isSome_item?_iff.2 hd), Product.reaches_iff_covered h]

namespace OfferRequest

/-- **Coverage.**  An offer that gives no roots is calculated, whatever formulas are read before.  A
declared item is costed exactly if it is covered; unless it is cut off it is, and each of its stages has a
result.  Where bindings have distinct ids and none is on a cycle, every declared item is costed. -/
theorem calculate_covers [Platform] (r : OfferRequest) (cache : Formula.Cache) (h : r.product.roots = []) :
    ∃ result, r.calculate none cache = .ok result ∧
      (∀ ref ∈ r.product.refs, (result.costs.result? ref).isSome ↔ r.product.Covered ref) ∧
      (∀ ref ∈ r.product.refs, ¬ r.product.CutOff ref →
        ∃ item, result.costs.result? ref = some item ∧
          r.StagesAfresh (r.product.stagesOf ref) item.stages) ∧
      (r.product.bindingIds.Nodup → (∀ id, ¬ r.product.OnCycle id) →
        ∀ ref ∈ r.product.refs, (result.costs.result? ref).isSome) := by
  obtain ⟨costs, w, result, hv, hcalc, hcosts⟩ := r.exists_calculate cache
  have hrec : (r.calculation none).Recorded w := hv.recorded (Walk.allResults_start _ _ _)
  have hcosted : ∀ ref ∈ r.product.refs, (w.result? ref).isSome ↔ r.product.Covered ref := fun _ =>
    hv.isSome_result?_iff_covered h
  have hup : ∀ ref ∈ r.product.refs, ¬ r.product.CutOff ref → (w.result? ref).isSome := fun ref hd hn =>
    (hcosted ref hd).2 ((Product.covered_or_cutOff hd).resolve_right hn)
  refine ⟨result, hcalc, ?_⟩
  rw [hcosts, Calculation.result?_rollup]
  refine ⟨hcosted, fun ref hd hn => ?_, fun hids hcycle ref hd =>
    hup ref hd (Product.not_cutOff hids hcycle ref)⟩
  obtain ⟨item, hitem⟩ := Option.isSome_iff_exists.1 (hup ref hd hn)
  obtain ⟨declared, parts, hi, rfl⟩ := hrec ref item hitem
  have hi : r.product.item? ref = some declared := hi
  refine ⟨_, hitem, ?_⟩
  rw [Item.result_stages, Product.stagesOf_of_some hi]
  exact r.stagesAfresh_freshStages declared.stages

/-- A ring of two bindings inside a third one. -/
def boxedRing : OfferRequest where
  product :=
    { details := [{ id := "sheet", stages := [{ id := "print", operationPrice := some 2 }] }]
      bindings := [
        { id := "front", bindingIds := ["back"] },
        { id := "back", detailIds := ["sheet"], bindingIds := ["front"] },
        { id := "box", bindingIds := ["front"] }] }

open Native

/-- From outside, all of the ring is covered. -/
theorem calculate_covers_boxedRing :
    boxedRing.product.roots = [] ∧ ∃ result, boxedRing.calculate none .empty = .ok result ∧
      (result.costs.result? ⟨.detail, "sheet"⟩).isSome := by
  obtain ⟨result, hcalc, hcovered, -, -⟩ := calculate_covers boxedRing .empty rfl
  have hsheet : boxedRing.product.Inside ⟨.detail, "sheet"⟩ ⟨.binding, "back"⟩ := ⟨_, rfl, by decide⟩
  have hback : boxedRing.product.Inside ⟨.binding, "back"⟩ ⟨.binding, "front"⟩ := ⟨_, rfl, by decide⟩
  have hfront : boxedRing.product.Inside ⟨.binding, "front"⟩ ⟨.binding, "box"⟩ := ⟨_, rfl, by decide⟩
  have hpath := ReflTransGen.head hsheet (.head hback (.single hfront))
  exact ⟨rfl, result, hcalc, (hcovered _ (by decide)).2 ⟨⟨.binding, "box"⟩, by decide, hpath⟩⟩

/-- The same ring on its own. -/
def ring : OfferRequest where
  product :=
    { details := [{ id := "sheet", stages := [{ id := "print", operationPrice := some 2 }] }]
      bindings := [
        { id := "front", bindingIds := ["back"] },
        { id := "back", detailIds := ["sheet"], bindingIds := ["front"] }] }

/-- A binding that is declared twice; the second one lists a detail. -/
def declaredTwice : OfferRequest where
  product :=
    { details := [{ id := "sheet", stages := [{ id := "print", operationPrice := some 2 }] }]
      bindings := [{ id := "book" }, { id := "book", detailIds := ["sheet"] }] }

/-- Nothing but the second binding lists the detail, and that one does not count. -/
theorem not_covered_declaredTwice : ¬ declaredTwice.product.Covered ⟨.detail, "sheet"⟩ := by
  rintro ⟨top, htop, hpath⟩
  rcases hpath.cases_head with rfl | ⟨parent, hin, -⟩
  · exact absurd htop (by decide)
  · obtain ⟨id, b, rfl, hb, hc⟩ := hin.binding_of_parent
    have hid : id = "book" := by
      have hids : ∀ id ∈ declaredTwice.product.bindingIds, id = "book" := by decide
      exact hids id (Product.mem_bindingIds hb)
    subst hid
    cases hb
    exact absurd hc (by decide)

/-- **What is left out**: a ring on its own, with its detail, and a detail that is listed in vain. -/
theorem calculate_leavesOut :
    (∃ result, ring.product.roots = [] ∧ ring.calculate none .empty = .ok result ∧
      ∀ ref ∈ ring.product.refs, result.costs.result? ref = none) ∧
    ∃ result, declaredTwice.product.roots = [] ∧ declaredTwice.calculate none .empty = .ok result ∧
      ⟨.detail, "sheet"⟩ ∈ declaredTwice.product.refs ∧
      result.costs.result? ⟨.detail, "sheet"⟩ = none := by
  constructor
  · exact ⟨_, rfl, rfl, by decide⟩
  · obtain ⟨_, w, result, hv, hcalc, hcosts⟩ := declaredTwice.exists_calculate .empty
    refine ⟨result, rfl, hcalc, by decide, ?_⟩
    rw [hcosts, Calculation.result?_rollup, ← Option.not_isSome_iff_eq_none]
    exact fun hs => not_covered_declaredTwice ((hv.isSome_result?_iff_covered rfl (by decide)).1 hs)

end OfferRequest

end Costing
