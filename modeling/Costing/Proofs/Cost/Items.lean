import Costing.Proofs.Cost.Runs
import Costing.Proofs.Product.Reach

/-!
# Cost — the items of a result

Which items a run costs, and what it records of their stages, for every product: items may be shared,
unknown or inside themselves.

* `Visits.isSome_result?_iff`: the walk from the top level costs exactly the known items that the offer
  reaches.  Nothing else is costed (`Visits.reaches`), and nothing is missed, as whatever a costed item
  contains is itself costed, unknown, or an ancestor (`Calculation.Closed`); in the end there is no
  ancestor.
* `Visits.recorded`: what is recorded of an item is computed from its own stages alone.
* `calculate_items`: both for an offer.
-/

namespace Costing

variable {α : Type}

namespace Calculation

/-! ### Fresh stages one by one -/

/-- A result is that of its stage after the results before it. -/
theorem getElem?_freshStages (c : Calculation α) (stages : List Stage) :
    ∀ (done : List (StageResult α)) (i : Nat), (c.freshStages done stages)[i]? =
      stages[i]?.map fun stage =>
        (c.costStage stage (done ++ (c.freshStages done stages).take i) .empty).1.1 := by
  induction stages with
  | nil => intro done i; rfl
  | cons stage rest ih =>
      intro done i
      cases i with
      | zero => rw [List.take_zero, List.append_nil]; rfl
      | succ i =>
          rw [freshStages, List.getElem?_cons_succ, ih, List.getElem?_cons_succ, List.take_succ_cons,
            List.append_assoc]
          rfl

variable {c : Calculation α}

/-! ### What is costed -/

/-- Every result is that of a reached item. -/
def ReachesOnly (c : Calculation α) (w : Walk α) : Prop :=
  w.AllResults fun ref _ => c.product.Reaches ref

/-- An item is costed, unknown or an ancestor. -/
def Settled (c : Calculation α) (ancestors : List ItemRef) (w : Walk α) (ref : ItemRef) : Prop :=
  c.product.item? ref = none ∨ (w.result? ref).isSome ∨ ref ∈ ancestors

/-- Whatever a costed item contains is costed, unknown or an ancestor. -/
def Closed (c : Calculation α) (ancestors : List ItemRef) (w : Walk α) : Prop :=
  w.AllResults fun ref _ => ∀ item, c.product.item? ref = some item →
    ∀ child ∈ item.children, c.Settled ancestors w child

theorem Closed.inside {ancestors : List ItemRef} {w : Walk α} (h : c.Closed ancestors w)
    (ref : ItemRef) : c.Closed (ref :: ancestors) w := fun other result hr item hi child hc =>
  (h other result hr item hi child hc).imp_right (Or.imp_right (List.mem_cons_of_mem ref))

/-- A costed item is no ancestor any more, but it is settled all the same. -/
theorem Settled.put {ancestors : List ItemRef} {ref other : ItemRef} {w w' : Walk α}
    (hw : w'.result? = w.result?) (result : ItemResult α) (h : c.Settled (ref :: ancestors) w other) :
    c.Settled ancestors (w'.put ref result) other := by
  by_cases e : ref = other
  · exact .inr (.inl (by rw [e, Walk.result?_put_self]; rfl))
  · rcases h with h | h | h
    · exact .inl h
    · exact .inr (.inl (by rw [Walk.result?_put_of_ne _ e, hw]; exact h))
    · exact .inr (.inr ((List.mem_cons.1 h).resolve_left (Ne.symm e)))

theorem Closed.put {ancestors : List ItemRef} {ref : ItemRef} {item : Item} {w w' : Walk α}
    (hw : w'.result? = w.result?) (hi : c.product.item? ref = some item) (result : ItemResult α)
    (h : c.Closed (ref :: ancestors) w)
    (hc : ∀ child ∈ item.children, c.Settled (ref :: ancestors) w child) :
    c.Closed ancestors (w'.put ref result) := by
  have hold : w.AllResults fun other _ => ∀ item, c.product.item? other = some item →
      ∀ child ∈ item.children, c.Settled ancestors (w'.put ref result) child :=
    fun other r hr item hi child hchild => (h other r hr item hi child hchild).put hw result
  refine hold.put hw fun item' hi' child hchild => ?_
  rw [hi] at hi'; cases hi'
  exact (hc child hchild).put hw result

variable [Add α] [OfNat α 0]

/-- Every result is that of a known item, with its stages costed afresh. -/
def Recorded (c : Calculation α) (w : Walk α) : Prop :=
  w.AllResults fun ref result => ∃ item parts,
    c.product.item? ref = some item ∧ result = item.result parts (c.freshStages [] item.stages)

namespace Visits

/-- **What is recorded** of an item depends on its own stages alone. -/
theorem recorded {ancestors items : List ItemRef} {w w' : Walk α} {costs : List (CostRecord α)}
    (h : c.Visits ancestors items w costs w') (hw : c.Recorded w) : c.Recorded w' := by
  refine h.preserves (P := c.Recorded) (fun _ _ hv => hv) ?_ hw
  intro v v₂ ref item parts stages _ hi own hv
  refine hv.put (result?_visitStages own) ⟨item, parts, hi, ?_⟩
  rw [(visitStages_ok own).1, List.nil_append]

/-- Costing reached items costs reached items only. -/
theorem reaches {ancestors items : List ItemRef} {w w' : Walk α} {costs : List (CostRecord α)}
    (h : c.Visits ancestors items w costs w') (hr : ∀ ref ∈ items, c.product.Reaches ref)
    (hw : c.ReachesOnly w) : c.ReachesOnly w' := by
  intro ref result hresult
  rcases h.within (fun _ _ hp hi _ hc => .child hp hi hc) hr (by rw [hresult]; rfl) with hold | ⟨-, hin⟩
  · obtain ⟨before, hbefore⟩ := Option.isSome_iff_exists.1 hold
    exact hw ref before hbefore
  · exact hin

/-- After a walk its items are settled, and whatever costed items contain is. -/
theorem closed {ancestors items : List ItemRef} {w w' : Walk α} {costs : List (CostRecord α)}
    (h : c.Visits ancestors items w costs w') (hw : c.Closed ancestors w) :
    c.Closed ancestors w' ∧ ∀ ref ∈ items, c.Settled ancestors w' ref := by
  induction h with
  | nil => exact ⟨hw, nofun⟩
  | cycle inside _ ih =>
      obtain ⟨hc, hs⟩ := ih hw
      exact ⟨hc, List.forall_mem_cons.2 ⟨.inr (.inr inside), hs⟩⟩
  | done _ costed tail ih =>
      obtain ⟨hc, hs⟩ := ih hw
      exact ⟨hc, List.forall_mem_cons.2 ⟨.inr (.inl (by rw [tail.result?_mono costed]; rfl)), hs⟩⟩
  | unknown _ _ unknown _ ih =>
      obtain ⟨hc, hs⟩ := ih hw
      exact ⟨hc, List.forall_mem_cons.2 ⟨.inl unknown, hs⟩⟩
  | visit _ _ known _ own tail ihchildren ihtail =>
      obtain ⟨hc, hs⟩ := ihchildren (hw.inside _)
      have hsame := result?_visitStages own
      obtain ⟨hc', hs'⟩ := ihtail (hc.put hsame known _ hs)
      refine ⟨hc', List.forall_mem_cons.2 ⟨.inr (.inl ?_), hs'⟩⟩
      rw [tail.result?_mono (Walk.result?_put_self _ _ _)]; rfl

/-- **The items of a walk** from the top level are exactly the known ones that the offer reaches. -/
theorem isSome_result?_iff {steps : Nat} {cache : Formula.Cache} {w : Walk α}
    {costs : List (CostRecord α)}
    (h : c.Visits [] c.product.topLevel (.start steps cache) costs w) (ref : ItemRef) :
    (w.result? ref).isSome ↔ (c.product.item? ref).isSome ∧ c.product.Reaches ref := by
  have hrec : c.Recorded w := h.recorded (Walk.allResults_start _ _ _)
  have hreach : c.ReachesOnly w := h.reaches (fun _ hr => .root hr) (Walk.allResults_start _ _ _)
  obtain ⟨hclosed, hroots⟩ := h.closed (Walk.allResults_start _ _ _)
  constructor
  · intro hw
    obtain ⟨result, hresult⟩ := Option.isSome_iff_exists.1 hw
    obtain ⟨item, -, hi, -⟩ := hrec ref result hresult
    exact ⟨by rw [hi]; rfl, hreach ref result hresult⟩
  · -- Where nothing is an ancestor, a known item that is settled is costed.
    have hcosted : ∀ {other : ItemRef}, (c.product.item? other).isSome → c.Settled [] w other →
        (w.result? other).isSome := by
      rintro other hk (hu | hd | ha)
      · rw [hu] at hk; cases hk
      · exact hd
      · exact absurd ha List.not_mem_nil
    rintro ⟨hk, hr⟩
    induction hr with
    | root hr => exact hcosted hk (hroots _ hr)
    | child _ hi hc ih =>
        obtain ⟨result, hresult⟩ := Option.isSome_iff_exists.1 (ih (by rw [hi]; rfl))
        exact hcosted hk (hclosed _ result hresult _ hi _ hc)

end Visits

end Calculation

/-! ### Offers -/

namespace OfferRequest

variable [Platform]

/-- The results of stages in order: each is what its stage gives on its own after the results before
it. -/
def StagesAfresh (r : OfferRequest) (stages : List Stage) (results : List (StageResult Float)) : Prop :=
  ∀ i : Nat, results[i]? =
    stages[i]?.map fun stage => (Stage.calculate r.surroundings r.options stage (results.take i)).1

theorem stagesAfresh_freshStages (r : OfferRequest) (stages : List Stage) :
    r.StagesAfresh stages ((r.calculation none).freshStages [] stages) := by
  intro i
  rw [(r.calculation none).getElem?_freshStages stages [] i, List.nil_append]
  rfl

/-- A result has its place as its index. -/
theorem StagesAfresh.index_eq {r : OfferRequest} {stages : List Stage}
    {results : List (StageResult Float)} (h : r.StagesAfresh stages results) {i : Nat}
    {result : StageResult Float} (hi : results[i]? = some result) : result.index = i := by
  have hlt : i < results.length := (List.getElem?_eq_some_iff.1 hi).1
  rw [h i] at hi
  obtain ⟨stage, -, rfl⟩ := Option.map_eq_some_iff.1 hi
  exact (List.length_take (l := results)).trans (Nat.min_eq_left hlt.le)

/-- **The items of an offer.**  Whatever formulas are read before, an offer is calculated; the costed
details and bindings are exactly the known ones that it reaches, and each stage of an item, at its
place, has the result that it gives on its own after those before it. -/
theorem calculate_items (r : OfferRequest) (cache : Formula.Cache) :
    ∃ result, r.calculate none cache = .ok result ∧
      (∀ id, id ∈ result.costs.details.keys ↔
        (r.product.detail? id).isSome ∧ r.product.Reaches ⟨.detail, id⟩) ∧
      (∀ id, id ∈ result.costs.bindings.keys ↔
        (r.product.binding? id).isSome ∧ r.product.Reaches ⟨.binding, id⟩) ∧
      (∀ id item, result.costs.details.get? id = some item →
        ∃ d, r.product.detail? id = some d ∧ r.StagesAfresh d.stages item.stages ∧
          ∀ (i : Nat) (stage : StageResult Float), item.stages[i]? = some stage → stage.index = i) ∧
      (∀ id item, result.costs.bindings.get? id = some item →
        ∃ b, r.product.binding? id = some b ∧ r.StagesAfresh b.stages item.stages ∧
          ∀ (i : Nat) (stage : StageResult Float), item.stages[i]? = some stage → stage.index = i) := by
  obtain ⟨costs, w, result, h, hcalc, hcosts⟩ := r.exists_calculate cache
  have hitems := h.isSome_result?_iff
  have hrec : (r.calculation none).Recorded w := h.recorded (Walk.allResults_start _ _ _)
  refine ⟨result, hcalc, ?_⟩
  rw [hcosts]
  refine ⟨fun id => ?_, fun id => ?_, fun id item hget => ?_, fun id item hget => ?_⟩
  · rw [Dict.mem_keys]
    exact (hitems ⟨.detail, id⟩).trans (by rw [Product.item?, Option.isSome_map]; rfl)
  · rw [Dict.mem_keys]
    exact (hitems ⟨.binding, id⟩).trans (by rw [Product.item?, Option.isSome_map]; rfl)
  · obtain ⟨_, parts, hi, rfl⟩ := hrec ⟨.detail, id⟩ item hget
    obtain ⟨d, hd, rfl⟩ := Option.map_eq_some_iff.1 hi
    rw [Item.result_stages]
    have hfresh := r.stagesAfresh_freshStages d.stages
    exact ⟨d, hd, hfresh, fun i stage hs => hfresh.index_eq hs⟩
  · obtain ⟨_, parts, hi, rfl⟩ := hrec ⟨.binding, id⟩ item hget
    obtain ⟨b, hb, rfl⟩ := Option.map_eq_some_iff.1 hi
    rw [Item.result_stages]
    have hfresh := r.stagesAfresh_freshStages b.stages
    exact ⟨b, hb, hfresh, fun i stage hs => hfresh.index_eq hs⟩

end OfferRequest

end Costing
