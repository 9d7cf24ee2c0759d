import Costing.Proofs.Cost.Runs
import Costing.Proofs.Product.Cycle

/-!
# Cost — notes of cycles

A walk notes a binding that it meets inside itself.

* `Visits.notesCycles`: whatever a walk notes is on a cycle, since it is an ancestor of itself.  A binding
  that is met on two ways, neither through itself, is not noted.
* `Visits.ends`: what a walk costs without noting anything is where every descent ends.  So no cycle
  hides behind a costed item: a cycle never ends, and to leave it unnoticed the walk would have to cost
  one of its bindings before the others.
* `calculate_cycles`: an offer notes a cycle exactly if one is reached from its top level.
-/

namespace Costing

open Relation

variable {α : Type}

namespace Calculation

/-! ### What is noted -/

/-- Stages note nothing. -/
theorem cycles_visitStages {c : Calculation α} {stages : List Stage} {done results : List (StageResult α)}
    {w w' : Walk α} (h : c.visitStages done stages w = .ok (results, w')) :
    w'.stats.cycles = w.stats.cycles := by
  refine visitStages_preserves (P := fun v => v.stats.cycles = w.stats.cycles) ?_ h rfl
  intro v result cache hv
  rw [← hv]
  unfold Walk.finishStage Stats.countStage
  cases result.1.cost.source <;> rfl

theorem cycles_noteCycle_ne_nil (w : Walk α) (id : String) : (w.noteCycle id).stats.cycles ≠ [] :=
  List.append_ne_nil_of_right_ne_nil _ (List.cons_ne_nil _ _)

/-- Whatever is noted is a reached binding on a cycle. -/
def NotesCycles (c : Calculation α) (w : Walk α) : Prop :=
  ∀ id ∈ w.stats.cycles, c.product.Reaches ⟨.binding, id⟩ ∧ c.product.OnCycle id

theorem NotesCycles.noteCycle {c : Calculation α} {w : Walk α} {ref : ItemRef} (hw : c.NotesCycles w)
    (hr : c.product.Reaches ref) (hc : TransGen c.product.Inside ref ref) :
    c.NotesCycles (w.noteCycle ref.id) := by
  intro id hid
  rcases List.mem_append.1 hid with hid | hid
  · exact hw id hid
  · obtain ⟨id', rfl, hcycle⟩ := Product.onCycle_of_inside hc
    cases List.mem_singleton.1 hid
    exact ⟨hr, hcycle⟩

/-- As long as nothing is noted, every descent from a costed item ends. -/
def Ends (c : Calculation α) (w : Walk α) : Prop :=
  w.stats.cycles = [] → w.AllResults fun ref _ => Acc c.product.Inside ref

theorem Ends.put {c : Calculation α} {w w' : Walk α} {ref : ItemRef} (hw : c.Ends w)
    (hcycles : w'.stats.cycles = w.stats.cycles) (hsame : w'.result? = w.result?)
    (href : w.stats.cycles = [] → Acc c.product.Inside ref) (result : ItemResult α) :
    c.Ends (w'.put ref result) := by
  intro hn
  rw [Walk.stats_put, hcycles] at hn
  exact (hw hn).put hsame (href hn)

variable [Add α] [OfNat α 0] {c : Calculation α}

namespace Visits

/-- **What is noted is on a cycle**, if the items of a walk are inside its ancestors. -/
theorem notesCycles {ancestors items : List ItemRef} {w w' : Walk α} {costs : List (CostRecord α)}
    (h : c.Visits ancestors items w costs w') (hr : ∀ ref ∈ items, c.product.Reaches ref)
    (hu : c.product.Under ancestors items) (hw : c.NotesCycles w) : c.NotesCycles w' := by
  induction h with
  | nil => exact hw
  | cycle inside _ ih =>
      obtain ⟨href, hrest⟩ := List.forall_mem_cons.1 hr
      exact ih hrest hu.tail (hw.noteCycle href (hu _ List.mem_cons_self _ inside))
  | done _ _ _ ih => exact ih (List.forall_mem_cons.1 hr).2 hu.tail hw
  | unknown _ _ _ _ ih => exact ih (List.forall_mem_cons.1 hr).2 hu.tail hw
  | visit _ _ known _ own _ ihchildren ihtail =>
      obtain ⟨href, hrest⟩ := List.forall_mem_cons.1 hr
      have h₁ := ihchildren (fun child hc => .child href known hc) (hu.children known) hw
      refine ihtail hrest hu.tail fun id hid => ?_
      rw [Walk.stats_put, cycles_visitStages own] at hid
      exact h₁ id hid

/-- A note is never taken back. -/
theorem cycles_eq_nil {ancestors items : List ItemRef} {w w' : Walk α} {costs : List (CostRecord α)}
    (h : c.Visits ancestors items w costs w') (hn : w'.stats.cycles = []) : w.stats.cycles = [] := by
  by_contra hw
  refine h.preserves (P := fun v => v.stats.cycles ≠ []) ?_ ?_ hw hn
  · exact fun v id _ => cycles_noteCycle_ne_nil v id
  · intro v v₂ ref item parts stages _ _ own hv
    rw [Walk.stats_put, cycles_visitStages own]
    exact hv

/-- **No cycle is missed.**  If a walk notes nothing, every descent from its items ends. -/
theorem ends {ancestors items : List ItemRef} {w w' : Walk α} {costs : List (CostRecord α)}
    (h : c.Visits ancestors items w costs w') (hw : c.Ends w) :
    c.Ends w' ∧ (w'.stats.cycles = [] → ∀ ref ∈ items, Acc c.product.Inside ref) := by
  induction h with
  | nil => exact ⟨hw, fun _ => nofun⟩
  | @cycle _ _ ref w _ _ _ tail ih =>
      have hnote := cycles_noteCycle_ne_nil w ref.id
      -- The note stays, so the walk does not end without one.
      obtain ⟨hw', -⟩ := ih fun hn => absurd hn hnote
      exact ⟨hw', fun hn => absurd (tail.cycles_eq_nil hn) hnote⟩
  | done _ costed tail ih =>
      obtain ⟨hw', hrest⟩ := ih hw
      refine ⟨hw', fun hn => List.forall_mem_cons.2 ⟨?_, hrest hn⟩⟩
      exact hw (tail.cycles_eq_nil hn) _ _ costed
  | unknown _ _ unknown _ ih =>
      obtain ⟨hw', hrest⟩ := ih hw
      exact ⟨hw', fun hn => List.forall_mem_cons.2 ⟨Product.acc_of_unknown unknown, hrest hn⟩⟩
  | @visit _ _ ref _ _ w₁ _ _ _ _ _ _ _ known _ own tail ihchildren ihtail =>
      obtain ⟨hw₁, hinside⟩ := ihchildren hw
      have hcycles := cycles_visitStages own
      have href : w₁.stats.cycles = [] → Acc c.product.Inside ref := fun hn =>
        Product.acc_of_children known (hinside hn)
      obtain ⟨hw', hrest⟩ := ihtail (hw₁.put hcycles (result?_visitStages own) href _)
      refine ⟨hw', fun hn => List.forall_mem_cons.2 ⟨href ?_, hrest hn⟩⟩
      have hn₂ := tail.cycles_eq_nil hn
      rwa [Walk.stats_put, hcycles] at hn₂

end Visits

end Calculation

/-! ### Offers -/

/-- **The cycles of an offer.**  Whatever formulas are read before, an offer is calculated; it notes a
cycle exactly if one can be reached from a binding of the top level, and every binding that it notes is
on such a cycle. -/
theorem OfferRequest.calculate_cycles [Platform] (r : OfferRequest) (cache : Formula.Cache) :
    ∃ result, r.calculate none cache = .ok result ∧
      (result.costs.stats.cycles ≠ [] ↔ ∃ id, r.product.OnReachedCycle id) ∧
      ∀ id ∈ result.costs.stats.cycles, r.product.OnReachedCycle id := by
  obtain ⟨costs, w, result, h, hcalc, hcosts⟩ := r.exists_calculate cache
  have hnoted : ∀ id ∈ w.stats.cycles, r.product.OnReachedCycle id := fun id hid =>
    Product.onReachedCycle_iff.2 (h.notesCycles (fun _ hr => .root hr) (fun _ _ => nofun) nofun id hid)
  obtain ⟨-, hends⟩ := h.ends fun _ => Walk.allResults_start _ _ _
  refine ⟨result, hcalc, ?_⟩
  rw [hcosts]
  refine ⟨⟨fun hn => ?_, ?_⟩, hnoted⟩
  · obtain ⟨id, hid⟩ := List.exists_mem_of_ne_nil _ hn
    exact ⟨id, hnoted id hid⟩
  · rintro ⟨id, hcycle⟩ hn
    obtain ⟨hr, hc⟩ := Product.onReachedCycle_iff.1 hcycle
    exact Product.not_onCycle_of_acc (hr.acc (hends hn)) hc

end Costing
