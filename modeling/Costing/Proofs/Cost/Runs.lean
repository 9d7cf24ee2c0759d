import Costing.Cost.Offer
import Costing.Proofs.Cost.Visits
import Costing.Proofs.Result

/-!
# Cost — runs derive the rules

The functions of the walk and the rules of `Calculation.Visits` agree.

* `visitRoots_visits`: what the walk over the top level gives is derived by the rules.
* `exists_run`: a run that is not stopped ends with a result, the one that a walk by the rules leads
  to; `OfferRequest.exists_calculate` says so of an offer.

The proofs follow the recursion of the walk, so they end as it does: a binding that is entered is not
an ancestor yet, and there are only so many.
-/

namespace Costing

variable {α : Type}

namespace Calculation

variable [Add α] {c : Calculation α}

/-! ### A walk that is not stopped -/

theorem exists_visitDetail (hs : c.stopAfter = none) (id : String) (w : Walk α) :
    ∃ r, c.visitDetail id w = .ok r := by
  unfold visitDetail
  split
  · exact ⟨_, rfl⟩
  · split
    · exact ⟨_, rfl⟩
    · exact exists_bind (exists_visitStages hs _ _ _) fun _ => ⟨_, rfl⟩

theorem exists_visitDetails (hs : c.stopAfter = none) (ids : List String) (w : Walk α) :
    ∃ r, c.visitDetails ids w = .ok r := by
  induction ids generalizing w with
  | nil => exact ⟨_, rfl⟩
  | cons id rest ih =>
      exact exists_bind (exists_visitDetail hs id w) fun (_, w₁) =>
        exists_bind (ih w₁) fun _ => ⟨_, rfl⟩

variable [OfNat α 0]

mutual

theorem exists_visitBinding (hs : c.stopAfter = none) (ancestors : List String) (id : String)
    (w : Walk α) : ∃ r, c.visitBinding ancestors id w = .ok r := by
  rw [visitBinding]
  split
  · exact ⟨_, rfl⟩
  · next ha =>
      split
      · exact ⟨_, rfl⟩
      · split
        · exact ⟨_, rfl⟩
        · next b hb =>
            have := unseen_lt (Product.mem_bindingIds hb) ha
            exact exists_bind (exists_visitDetails hs _ w) fun (_, w₁) =>
              exists_bind (exists_visitBindings hs (id :: ancestors) _ w₁) fun (_, w₂) =>
                exists_bind (exists_visitStages hs _ _ w₂) fun _ => ⟨_, rfl⟩
termination_by (unseen c.product.bindingIds ancestors, 0)

theorem exists_visitBindings (hs : c.stopAfter = none) (ancestors ids : List String) (w : Walk α) :
    ∃ r, c.visitBindings ancestors ids w = .ok r := by
  cases ids with
  | nil => rw [visitBindings]; exact ⟨_, rfl⟩
  | cons id rest =>
      rw [visitBindings]
      exact exists_bind (exists_visitBinding hs ancestors id w) fun (_, w₁) =>
        exists_bind (exists_visitBindings hs ancestors rest w₁) fun _ => ⟨_, rfl⟩
termination_by (unseen c.product.bindingIds ancestors, ids.length)

end

theorem exists_visitRoots (hs : c.stopAfter = none) (roots : List ItemRef) (w : Walk α) :
    ∃ r, c.visitRoots roots w = .ok r := by
  induction roots generalizing w with
  | nil => exact ⟨_, rfl⟩
  | cons root rest ih =>
      have hroot : ∃ r, c.visitRoot root w = .ok r := by
        obtain ⟨kind, id⟩ := root
        cases kind with
        | detail => exact exists_visitDetail hs id w
        | binding => exact exists_visitBinding hs [] id w
      exact exists_bind hroot fun (_, w₁) => exists_bind (ih w₁) fun _ => ⟨_, rfl⟩

/-! ### The walk derives the rules -/

/-- Bindings as ancestors. -/
def above (ids : List String) : List ItemRef :=
  ids.map (⟨.binding, ·⟩)

theorem detail_not_mem_above {ids : List String} {id : String} : ⟨.detail, id⟩ ∉ above ids := by
  simp [above]

theorem binding_mem_above {ids : List String} {id : String} : ⟨.binding, id⟩ ∈ above ids ↔ id ∈ ids := by
  simp [above]

theorem visitDetail_visits {ancestors : List String} {id : String} {w w₁ w' : Walk α}
    {cost : Option (CostRecord α)} {items : List ItemRef} {costs : List (CostRecord α)}
    (h : c.visitDetail id w = .ok (cost, w₁)) (tail : c.Visits (above ancestors) items w₁ costs w') :
    c.Visits (above ancestors) (⟨.detail, id⟩ :: items) w (cost.toList ++ costs) w' := by
  unfold visitDetail at h
  split at h
  · next item hd => cases h; exact .done detail_not_mem_above hd tail
  · next hn =>
      split at h
      · next hu =>
          cases h
          exact .unknown detail_not_mem_above hn (congrArg (Option.map Item.detail) hu) tail
      · next d hd =>
          obtain ⟨⟨stages, w₂⟩, hs, h⟩ := exists_of_bind_eq_ok h
          cases h
          exact .visit detail_not_mem_above hn (congrArg (Option.map Item.detail) hd) .nil hs tail

theorem visitDetails_visits {ancestors ids : List String} {w w₁ w' : Walk α}
    {parts : List (CostRecord α)} {items : List ItemRef} {costs : List (CostRecord α)}
    (h : c.visitDetails ids w = .ok (parts, w₁)) (tail : c.Visits (above ancestors) items w₁ costs w') :
    c.Visits (above ancestors) (ids.map (⟨.detail, ·⟩) ++ items) w (parts ++ costs) w' := by
  induction ids generalizing w parts with
  | nil => cases h; exact tail
  | cons id rest ih =>
      obtain ⟨⟨cost, w₂⟩, h₁, h⟩ := exists_of_bind_eq_ok h
      obtain ⟨⟨parts', w₃⟩, h₂, h⟩ := exists_of_bind_eq_ok h
      cases h
      rw [List.append_assoc]
      exact visitDetail_visits h₁ (ih h₂)

mutual

theorem visitBinding_visits {ancestors : List String} {id : String} {w w₁ w' : Walk α}
    {cost : Option (CostRecord α)} {items : List ItemRef} {costs : List (CostRecord α)}
    (h : c.visitBinding ancestors id w = .ok (cost, w₁))
    (tail : c.Visits (above ancestors) items w₁ costs w') :
    c.Visits (above ancestors) (⟨.binding, id⟩ :: items) w (cost.toList ++ costs) w' := by
  rw [visitBinding] at h
  split at h
  · next hm => cases h; exact .cycle (binding_mem_above.2 hm) tail
  · next hm =>
      have hout : ⟨.binding, id⟩ ∉ above ancestors := fun ha => hm (binding_mem_above.1 ha)
      split at h
      · next item hd => cases h; exact .done hout hd tail
      · next hn =>
          split at h
          · next hu => cases h; exact .unknown hout hn (congrArg (Option.map Item.binding) hu) tail
          · next b hb =>
              have := unseen_lt (Product.mem_bindingIds hb) hm
              obtain ⟨⟨details, w₂⟩, h₁, h⟩ := exists_of_bind_eq_ok h
              obtain ⟨⟨bindings, w₃⟩, h₂, h⟩ := exists_of_bind_eq_ok h
              obtain ⟨⟨stages, w₄⟩, h₃, h⟩ := exists_of_bind_eq_ok h
              cases h
              -- The walk inside the binding is one over its details and then its bindings.
              have hchildren := visitDetails_visits h₁ (visitBindings_visits h₂ .nil)
              simp only [List.append_nil] at hchildren
              exact .visit hout hn (congrArg (Option.map Item.binding) hb) hchildren h₃ tail
termination_by (unseen c.product.bindingIds ancestors, 0)

theorem visitBindings_visits {ancestors ids : List String} {w w₁ w' : Walk α}
    {parts : List (CostRecord α)} {items : List ItemRef} {costs : List (CostRecord α)}
    (h : c.visitBindings ancestors ids w = .ok (parts, w₁))
    (tail : c.Visits (above ancestors) items w₁ costs w') :
    c.Visits (above ancestors) (ids.map (⟨.binding, ·⟩) ++ items) w (parts ++ costs) w' := by
  cases ids with
  | nil => rw [visitBindings] at h; cases h; exact tail
  | cons id rest =>
      rw [visitBindings] at h
      obtain ⟨⟨cost, w₂⟩, h₁, h⟩ := exists_of_bind_eq_ok h
      obtain ⟨⟨parts', w₃⟩, h₂, h⟩ := exists_of_bind_eq_ok h
      cases h
      rw [List.append_assoc]
      exact visitBinding_visits h₁ (visitBindings_visits h₂ tail)
termination_by (unseen c.product.bindingIds ancestors, ids.length)

end

/-- **The walk over the top level** is derived by the rules. -/
theorem visitRoots_visits {roots : List ItemRef} {w w' : Walk α} {costs : List (CostRecord α)}
    (h : c.visitRoots roots w = .ok (costs, w')) : c.Visits [] roots w costs w' := by
  induction roots generalizing w costs with
  | nil => cases h; exact .nil
  | cons root rest ih =>
      obtain ⟨⟨cost, w₁⟩, h₁, h⟩ := exists_of_bind_eq_ok h
      obtain ⟨⟨costs', w₂⟩, h₂, h⟩ := exists_of_bind_eq_ok h
      cases h
      have tail : c.Visits (above []) rest w₁ costs' w' := ih h₂
      obtain ⟨kind, id⟩ := root
      cases kind with
      | detail => exact visitDetail_visits h₁ tail
      | binding => exact visitBinding_visits h₁ tail

/-! ### The run -/

/-- What a walk over the top level leads to. -/
def rollup (c : Calculation α) (costs : List (CostRecord α)) (w : Walk α) : Rollup α where
  roots := c.product.topLevel
  details := w.details
  bindings := w.bindings
  total := .aggregate costs
  stats := w.stats
  reports := w.reports

/-- **A run that is not stopped** ends with a result, the one that a walk by the rules leads to. -/
theorem exists_run (hs : c.stopAfter = none) (cache : Formula.Cache) :
    ∃ costs w, c.Visits [] c.product.topLevel (.start c.product.countSteps cache) costs w ∧
      c.run cache = .ok (c.rollup costs w) := by
  obtain ⟨⟨costs, w⟩, h⟩ := exists_visitRoots hs c.product.topLevel (.start c.product.countSteps cache)
  exact ⟨costs, w, visitRoots_visits h, by rw [run, h]; rfl⟩

end Calculation

/-- What the results of a run have of an item. -/
def Rollup.result? (costs : Rollup α) (ref : ItemRef) : Option (ItemResult α) :=
  match ref.kind with
  | .detail => costs.details.get? ref.id
  | .binding => costs.bindings.get? ref.id

@[simp] theorem Calculation.result?_rollup [Add α] (c : Calculation α) (costs : List (CostRecord α))
    (w : Walk α) : (c.rollup costs w).result? = w.result? := rfl

/-- An offer that is not stopped is calculated by a walk by the rules. -/
theorem OfferRequest.exists_calculate [Platform] (r : OfferRequest) (cache : Formula.Cache) :
    ∃ costs w result,
      (r.calculation none).Visits [] r.product.topLevel (.start r.product.countSteps cache) costs w ∧
      r.calculate none cache = .ok result ∧ result.costs = (r.calculation none).rollup costs w := by
  have hs : (r.calculation none).stopAfter = none := rfl
  obtain ⟨costs, w, h, hrun⟩ := Calculation.exists_run hs cache
  exact ⟨costs, w, _, h, by rw [calculate, hrun]; rfl, rfl⟩

end Costing
