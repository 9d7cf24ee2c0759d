import Costing.Proofs.Cost.Items

/-!
# Cost — reports and counts

Two traversals agree on how many stages there are: the dry count, which adds up the stages of the items
that it meets, and the walk, which reports every stage that it costs.

* `Visits.counted`: the reports of a walk count up one by one, and each of them is a stage of one
  source.
* `Visits.tallied`: there is one report for each stage of the costed items.
* `calculate_reports`: the reports of an offer go up to the dry count, since both the costed items and
  the items that the dry count meets are those that the offer reaches.
-/

namespace Costing

/-! ### Counting a stage -/

namespace Stats

@[simp] theorem totalSteps_countStage (s : Stats) (source : CostSource) (failures : Nat) :
    (s.countStage source failures).totalSteps = s.totalSteps := by
  cases source <;> rfl

@[simp] theorem stagesCalculated_countStage (s : Stats) (source : CostSource) (failures : Nat) :
    (s.countStage source failures).stagesCalculated = s.stagesCalculated + 1 := by
  cases source <;> rfl

/-- The stages of all sources. -/
def ofSources (s : Stats) : Nat :=
  s.logicApplied + s.fallbacks + s.unresolved

@[simp] theorem ofSources_countStage (s : Stats) (source : CostSource) (failures : Nat) :
    (s.countStage source failures).ofSources = s.ofSources + 1 := by
  cases source <;> simp only [countStage, ofSources] <;> omega

end Stats

namespace Calculation

variable {α : Type}

/-! ### The reports of a walk -/

/-- The reports count up from one, out of a total, and each of them is a stage of one source. -/
structure Counted (total : Nat) (w : Walk α) : Prop where
  reports : w.reports = (List.range w.reports.length).map fun i => ⟨i + 1, total⟩
  totalSteps : w.stats.totalSteps = total
  stagesCalculated : w.stats.stagesCalculated = w.reports.length
  ofSources : w.stats.ofSources = w.reports.length

theorem counted_start (total : Nat) (cache : Formula.Cache) :
    Counted total (.start total cache : Walk α) :=
  ⟨rfl, rfl, rfl, rfl⟩

theorem Counted.finishStage {total : Nat} {w : Walk α} (h : Counted total w)
    (result : StageResult α × Nat) (cache : Formula.Cache) :
    Counted total (w.finishStage result cache) := by
  have hlength : (w.finishStage result cache).reports.length = w.reports.length + 1 :=
    List.length_append
  refine ⟨?_, ?_, ?_, ?_⟩
  · rw [hlength, List.range_succ, List.map_append, ← h.reports, ← h.totalSteps]
    rfl
  · exact (Stats.totalSteps_countStage _ _ _).trans h.totalSteps
  · rw [hlength, ← h.stagesCalculated]
    exact Stats.stagesCalculated_countStage _ _ _
  · rw [hlength, ← h.ofSources]
    exact Stats.ofSources_countStage _ _ _

theorem Counted.put {total : Nat} {w : Walk α} (h : Counted total w) (ref : ItemRef)
    (result : ItemResult α) : Counted total (w.put ref result) := by
  obtain ⟨kind, id⟩ := ref
  cases kind with
  | detail => exact ⟨h.reports, h.totalSteps, h.stagesCalculated, h.ofSources⟩
  | binding => exact ⟨h.reports, h.totalSteps, h.stagesCalculated, h.ofSources⟩

/-- There is one report for each stage of the costed items. -/
def Tallied (c : Calculation α) (w : Walk α) : Prop :=
  ∃ costed : Finset ItemRef, (∀ ref, ref ∈ costed ↔ (w.result? ref).isSome) ∧
    w.reports.length = ∑ ref ∈ costed, (c.product.stagesOf ref).length

theorem tallied_start (c : Calculation α) (total : Nat) (cache : Formula.Cache) :
    c.Tallied (.start total cache) :=
  ⟨∅, fun ref => by rw [Walk.result?_start]; exact iff_of_false (Finset.notMem_empty _) nofun, rfl⟩

variable [Add α] [OfNat α 0] {c : Calculation α}

namespace Visits

/-- **The reports of a walk** count up. -/
theorem counted {total : Nat} {ancestors items : List ItemRef} {w w' : Walk α}
    {costs : List (CostRecord α)} (h : c.Visits ancestors items w costs w') (hw : Counted total w) :
    Counted total w' := by
  refine h.preserves (P := Counted total) (fun v id hv => ?_) ?_ hw
  · exact ⟨hv.reports, hv.totalSteps, hv.stagesCalculated, hv.ofSources⟩
  · intro v v₂ ref item parts stages _ _ own hv
    have hv₂ : Counted total v₂ :=
      visitStages_preserves (fun _ result cache hu => hu.finishStage result cache) own hv
    exact hv₂.put ref _

/-- **The costed items** have one report for each of their stages. -/
theorem tallied {ancestors items : List ItemRef} {w w' : Walk α} {costs : List (CostRecord α)}
    (h : c.Visits ancestors items w costs w') (hw : c.Tallied w) : c.Tallied w' := by
  refine h.preserves (P := c.Tallied) (fun _ _ hv => hv) ?_ hw
  rintro v v₂ ref item parts stages hnew hi own ⟨costed, hmem, hsum⟩
  -- An item is costed once, so its stages are added once.
  have hout : ref ∉ costed := fun hm => by
    have := (hmem ref).1 hm
    rw [hnew] at this; cases this
  refine ⟨insert ref costed, fun other => ?_, ?_⟩
  · rw [Finset.mem_insert, hmem, Walk.result?_put, result?_visitStages own]
    by_cases e : ref = other
    · rw [if_pos e]; exact iff_of_true (.inl e.symm) rfl
    · rw [if_neg e, or_iff_right (Ne.symm e)]
  · rw [Walk.reports_put, (visitStages_ok own).2, Finset.sum_insert hout,
      Product.stagesOf_of_some hi, hsum, Nat.add_comm]

/-- A walk from the top level makes as many reports as the dry count says. -/
theorem length_reports {total : Nat} {cache : Formula.Cache} {w : Walk α} {costs : List (CostRecord α)}
    (h : c.Visits [] c.product.topLevel (.start total cache) costs w) :
    w.reports.length = c.product.countSteps := by
  obtain ⟨costed, hmem, hsum⟩ := h.tallied (c.tallied_start total cache)
  have hcosted : costed = c.product.reached := Finset.ext fun ref =>
    (hmem ref).trans ((h.isSome_result?_iff ref).trans Product.mem_reached.symm)
  rw [hsum, hcosted, c.product.countSteps_eq_sum]

end Visits

end Calculation

/-! ### Offers -/

/-- **The reports of an offer.**  Whatever formulas are read before, an offer is calculated, and its
reports count up to the dry count.  The dry count is the sum of the stages over the distinct known items
that the offer reaches, and so many stages are calculated, each with one source. -/
theorem OfferRequest.calculate_reports [Platform] (r : OfferRequest) (cache : Formula.Cache) :
    ∃ result, r.calculate none cache = .ok result ∧
      result.costs.reports =
        (List.range r.product.countSteps).map (fun i => ⟨i + 1, r.product.countSteps⟩) ∧
      r.product.countSteps = ∑ ref ∈ r.product.reached, (r.product.stagesOf ref).length ∧
      result.costs.stats.totalSteps = r.product.countSteps ∧
      result.costs.stats.stagesCalculated = r.product.countSteps ∧
      result.costs.stats.logicApplied + result.costs.stats.fallbacks +
        result.costs.stats.unresolved = r.product.countSteps := by
  obtain ⟨costs, w, result, h, hcalc, hcosts⟩ := r.exists_calculate cache
  have hcounted := h.counted (Calculation.counted_start _ cache)
  have hlength : w.reports.length = r.product.countSteps := h.length_reports
  refine ⟨result, hcalc, ?_, r.product.countSteps_eq_sum, ?_⟩
  · rw [hcosts]
    exact hcounted.reports.trans (by rw [hlength])
  · rw [hcosts]
    exact ⟨hcounted.totalSteps, hcounted.stagesCalculated.trans hlength,
      hcounted.ofSources.trans hlength⟩

end Costing
