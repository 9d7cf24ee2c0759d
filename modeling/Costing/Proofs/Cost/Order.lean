import Costing.Proofs.Cost.Coverage
import Costing.Proofs.Cost.Plain
import Costing.Proofs.Cost.Shadow

/-!
# Cost — the order of the roots

An offer costs its roots one after the other and remembers what it has costed.  Does an item cost the
same if the roots come in another order?

It does if every descent from the item ends, as then its cost is the plain one.  On or above a cycle it
may not: the binding by which a cycle is entered counts as zero inside it, so that what is remembered of
the others depends on the entry.

* `Visits.fromAlone`: whatever a walk over some roots remembers of an item is what one of the roots would
  give it alone, if the roots agree on all that the item contains.  The walk over a root alone and the
  one over it after others are in step (`Visits.shadows`).
* `calculate_perm`: what runs over permuted roots record alike, and where the order matters.
* `recordedCost_ring`: two orders of two bindings that contain each other record different costs.
-/

namespace Costing

open Relation

/-- Options that are present together, with the same image. -/
theorem map_eq_map_of_isSome_iff {β γ : Type} {f : β → γ} {x y : Option β} (h : x.isSome ↔ y.isSome)
    (heq : ∀ a b, x = some a → y = some b → f a = f b) : x.map f = y.map f := by
  cases x <;> cases y
  case none.none => rfl
  case none.some => exact absurd (h.2 rfl) nofun
  case some.none => exact absurd (h.1 rfl) nofun
  case some.some a b => exact congrArg some (heq a b rfl rfl)

/-! ### Other roots -/

/-- The same product, made up of the given items. -/
def Product.withRoots (p : Product) (roots : List ItemRef) : Product :=
  { p with roots }

/-- The same calculation for a product made up of the given items. -/
def Calculation.withRoots {α : Type} (c : Calculation α) (roots : List ItemRef) : Calculation α :=
  { c with product := c.product.withRoots roots }

namespace Product

variable {p : Product} {roots roots' : List ItemRef}

theorem topLevel_withRoots (h : roots ≠ []) : (p.withRoots roots).topLevel = roots :=
  if_neg fun he => h (List.isEmpty_iff.1 he)

theorem topLevel_perm (h : roots.Perm roots') :
    (p.withRoots roots).topLevel.Perm (p.withRoots roots').topLevel := by
  by_cases hn : roots = []
  · subst hn
    obtain rfl := h.nil_eq
    exact .refl _
  · have hn' : roots' ≠ [] := fun e => hn (e ▸ h).eq_nil
    rwa [topLevel_withRoots hn, topLevel_withRoots hn']

/-- What is reached depends on the items of the top level only. -/
theorem Reaches.withRoots (hsub : ∀ ref ∈ (p.withRoots roots).topLevel, ref ∈ (p.withRoots roots').topLevel)
    {ref : ItemRef} (h : (p.withRoots roots).Reaches ref) : (p.withRoots roots').Reaches ref := by
  induction h with
  | root hm => exact .root (hsub _ hm)
  | child _ hi hc ih => exact .child ih hi hc

/-- A detail contains nothing. -/
theorem acc_detail (p : Product) (id : String) : Acc p.Inside ⟨.detail, id⟩ :=
  .intro _ fun _ hin => by
    obtain ⟨_, _, he, -, -⟩ := hin.binding_of_parent
    cases he

theorem acc_of_below {ref below : ItemRef} (h : Acc p.Inside ref) (hb : ReflTransGen p.Inside below ref) :
    Acc p.Inside below := by
  induction hb using ReflTransGen.head_induction_on with
  | refl => exact h
  | head hin _ ih => exact ih.inv hin

end Product

namespace Calculation

variable {α : Type}

theorem visitStages_withRoots (c : Calculation α) (roots : List ItemRef) (stages : List Stage) :
    ∀ (done : List (StageResult α)) (w : Walk α),
      (c.withRoots roots).visitStages done stages w = c.visitStages done stages w := by
  induction stages with
  | nil => exact fun _ _ => rfl
  | cons stage rest ih =>
      intro done w
      have hstops : (c.withRoots roots).stops w = c.stops w := rfl
      have hcost : (c.withRoots roots).costStage = c.costStage := rfl
      simp only [visitStages, hstops, hcost, ih]

variable [Add α] [OfNat α 0] {c : Calculation α}

/-- Items are costed alike, whatever roots are given. -/
theorem Visits.of_withRoots {roots ancestors items : List ItemRef} {w w' : Walk α}
    {costs : List (CostRecord α)} (h : (c.withRoots roots).Visits ancestors items w costs w') :
    c.Visits ancestors items w costs w' := by
  induction h with
  | nil => exact .nil
  | cycle inside _ ih => exact .cycle inside ih
  | done outside costed _ ih => exact .done outside costed ih
  | unknown outside fresh unknown _ ih => exact .unknown outside fresh unknown ih
  | visit outside fresh known _ own _ ihchildren ihtail =>
      rw [visitStages_withRoots] at own
      exact .visit outside fresh known ihchildren own ihtail

/-! ### Roots alone -/

/-- Items are costed from nothing, and a walk is what this leads to. -/
def Gives (c : Calculation α) (items : List ItemRef) (w : Walk α) : Prop :=
  ∃ steps cache costs, c.Visits [] items (.start steps cache) costs w

/-- The roots that cost an item, each alone, give it the same cost. -/
def RootsAgree (c : Calculation α) (roots : List ItemRef) (ref : ItemRef) : Prop :=
  ∀ root ∈ roots, ∀ root' ∈ roots, ∀ w w', c.Gives [root] w → c.Gives [root'] w' →
    ∀ result result', w.result? ref = some result → w'.result? ref = some result' →
      result.cost = result'.cost

/-- The roots agree on an item and on all that it contains, at whatever depth. -/
def RootsAgreeBelow (c : Calculation α) (roots : List ItemRef) (ref : ItemRef) : Prop :=
  ∀ below, ReflTransGen c.product.Inside below ref → c.RootsAgree roots below

theorem exists_gives (hs : c.stopAfter = none) (items : List ItemRef) : ∃ w, c.Gives items w := by
  obtain ⟨⟨costs, w⟩, h⟩ := exists_visitRoots hs items (.start 0 .empty)
  exact ⟨w, 0, .empty, costs, visitRoots_visits h⟩

/-- **The items decide** what each item costs, with or without formulas read before. -/
theorem Gives.cost_eq {items : List ItemRef} {w w' : Walk α} (h : c.Gives items w)
    (h' : c.Gives items w') (ref : ItemRef) :
    (w.result? ref).map ItemResult.cost = (w'.result? ref).map ItemResult.cost := by
  obtain ⟨steps, cache, costs, hv⟩ := h
  obtain ⟨steps', cache', costs', hv'⟩ := h'
  have hnone : ∀ ref, (Walk.start steps' cache' : Walk α).result? ref = none :=
    Walk.result?_start steps' cache'
  -- From nothing, every item is good, and the two walks are in step all along.
  have hstart := Shadows.start (fun _ => True) (.start steps' cache' : Walk α) steps cache
  obtain ⟨hs, -⟩ := hv.shadows (c.ended_start steps' cache') (fun _ _ _ _ _ _ => trivial) hv'
    (List.forall_mem_nil _) (fun ref _ _ _ _ hr => by rw [hnone] at hr; cases hr) hstart
  have hcosted := hs.costed ref
  rw [hnone, Option.isSome_none] at hcosted
  exact map_eq_map_of_isSome_iff ⟨fun ho => hcosted.2 (.inr ho), fun hj => (hcosted.1 hj).resolve_left nofun⟩
    fun result result' => hs.agree ref trivial (hnone ref) result result'

/-- A root that comes first is costed as it is alone. -/
theorem Gives.of_head {root ref : ItemRef} {rest : List ItemRef} {w v : Walk α}
    (h : c.Gives (root :: rest) w) (hv : c.Gives [root] v) {own : ItemResult α}
    (hown : v.result? ref = some own) : (w.result? ref).map ItemResult.cost = some own.cost := by
  obtain ⟨steps, cache, costs, hw⟩ := h
  obtain ⟨_, _, first, hfirst, htail⟩ := hw.split
  have heq := hv.cost_eq ⟨steps, cache, _, hfirst⟩ ref
  rw [hown] at heq
  obtain ⟨result, hresult, hcost⟩ := Option.map_eq_some_iff.1 heq.symm
  rw [htail.result?_mono hresult]
  exact congrArg some hcost

/-! ### Roots one after the other -/

/-- Whatever a walk remembers of an item on which the roots agree, and on all below it, is what one of
them gives it alone. -/
def FromAlone (c : Calculation α) (roots : List ItemRef) (w : Walk α) : Prop :=
  w.AllResults fun ref result => c.RootsAgreeBelow roots ref →
    ∃ root ∈ roots, ∃ v own, c.Gives [root] v ∧ v.result? ref = some own ∧ own.cost = result.cost

theorem RootsAgreeBelow.inside {roots : List ItemRef} {child parent : ItemRef}
    (h : c.RootsAgreeBelow roots parent) (hin : c.product.Inside child parent) :
    c.RootsAgreeBelow roots child :=
  fun below hb => h below (hb.tail hin)

/-- One more root. -/
theorem FromAlone.step {roots : List ItemRef} {root : ItemRef} (hm : root ∈ roots) {v w w' : Walk α}
    {costs : List (CostRecord α)} (hv : c.Gives [root] v) (h : c.Visits [] [root] w costs w')
    (hw : c.Ended w) (hfrom : c.FromAlone roots w) : c.FromAlone roots w' := by
  obtain ⟨steps, cache, _, hvisits⟩ := id hv
  have hend : ∀ ref, c.RootsAgreeBelow roots ref → ∀ result result', v.result? ref = some result →
      w.result? ref = some result' → result.cost = result'.cost := by
    intro ref hg result result' hr hr'
    obtain ⟨root', hm', v', own, hv', hown, hcost⟩ := hfrom ref result' hr' hg
    exact (hg ref .refl root hm root' hm' v v' hv hv' result own hr hown).trans hcost
  obtain ⟨hs, -⟩ := hvisits.shadows hw (fun _ _ hg hi _ hc => hg.inside ⟨_, hi, hc⟩) h
    (List.forall_mem_nil _) hend (.start _ w steps cache)
  intro ref result hr hg
  cases hb : w.result? ref with
  | some before =>
      obtain rfl := Option.some.inj ((hs.kept ref before hb).symm.trans hr)
      exact hfrom ref before hb hg
  | none =>
      have hcosted := (hs.costed ref).1 (by rw [hr]; rfl)
      rw [hb] at hcosted
      obtain ⟨own, hown⟩ := Option.isSome_iff_exists.1 (hcosted.resolve_left nofun)
      exact ⟨root, hm, v, own, hv, hown, hs.agree ref hg hb own result hown hr⟩

/-- **A walk over roots** gives what the roots give alone, where they agree. -/
theorem Visits.fromAlone (hs : c.stopAfter = none) {roots items : List ItemRef}
    (hsub : ∀ ref ∈ items, ref ∈ roots) {w w' : Walk α} {costs : List (CostRecord α)}
    (h : c.Visits [] items w costs w') (hw : c.Ended w) (hfrom : c.FromAlone roots w) :
    c.FromAlone roots w' := by
  induction items generalizing w costs with
  | nil =>
      cases h
      exact hfrom
  | cons root rest ih =>
      obtain ⟨hm, hrest⟩ := List.forall_mem_cons.1 hsub
      obtain ⟨_, _, w₁, hfirst, htail⟩ := h.split
      obtain ⟨v, hv⟩ := exists_gives hs [root]
      exact ih hrest htail (hfirst.ended hw) (hfrom.step hm hv hfirst hw)

/-- Walks over some of the roots give the same where the roots agree. -/
theorem RootsAgreeBelow.cost_eq (hs : c.stopAfter = none) {roots items items' : List ItemRef}
    (hsub : ∀ ref ∈ items, ref ∈ roots) (hsub' : ∀ ref ∈ items', ref ∈ roots) {w w' : Walk α}
    (h : c.Gives items w) (h' : c.Gives items' w') {ref : ItemRef} (hg : c.RootsAgreeBelow roots ref)
    {result result' : ItemResult α} (hr : w.result? ref = some result)
    (hr' : w'.result? ref = some result') : result.cost = result'.cost := by
  obtain ⟨steps, cache, _, hv⟩ := h
  obtain ⟨steps', cache', _, hv'⟩ := h'
  have hfrom : c.FromAlone roots w :=
    hv.fromAlone hs hsub (c.ended_start steps cache) (Walk.allResults_start _ _ _)
  have hfrom' : c.FromAlone roots w' :=
    hv'.fromAlone hs hsub' (c.ended_start steps' cache') (Walk.allResults_start _ _ _)
  obtain ⟨root, hm, v, own, halone, hown, hcost⟩ := hfrom ref result hr hg
  obtain ⟨root', hm', v', own', halone', hown', hcost'⟩ := hfrom' ref result' hr' hg
  rw [← hcost, ← hcost']
  exact hg ref .refl root hm root' hm' v v' halone halone' own own' hown hown'

/-- Roots agree on an item from which every descent ends: all give its plain cost. -/
theorem rootsAgreeBelow_of_acc (roots : List ItemRef) {ref : ItemRef} (h : Acc c.product.Inside ref) :
    c.RootsAgreeBelow roots ref := by
  intro below hb root _ root' _ w w' hw hw' result result' hr hr'
  have hacc := Product.acc_of_below h hb
  have hplain : ∀ {items : List ItemRef} {v : Walk α} {own : ItemResult α}, c.Gives items v →
      v.result? below = some own → c.plainCost below hacc = some own.cost := by
    rintro items v own ⟨_, _, _, hv⟩ hown
    exact (hv.plainWhereEnds (fun _ _ => nofun) (Walk.allResults_start _ _ _)).1 below own hown hacc
  exact Option.some.inj ((hplain hw hr).symm.trans (hplain hw' hr'))

end Calculation

/-! ### Offers -/

namespace OfferRequest

variable {r : OfferRequest}

/-- The same request for a product made up of the given items. -/
def withRoots (r : OfferRequest) (roots : List ItemRef) : OfferRequest :=
  { r with product := r.product.withRoots roots }

/-- The cost that the run over some roots records of an item, with some formulas read before. -/
def recordedCost [Platform] (r : OfferRequest) (cache : Formula.Cache) (roots : List ItemRef) (ref : ItemRef) :
    Option (CostRecord Float) :=
  match (r.withRoots roots).calculate none cache with
  | .ok result => (result.costs.result? ref).map ItemResult.cost
  | .error _ => none

/-- The roots that record an item, each alone, record the same cost of it, and so they do of all that it
contains, at whatever depth. -/
def RootsAgreeBelow [Platform] (r : OfferRequest) (roots : List ItemRef) (ref : ItemRef) : Prop :=
  ∀ below, ReflTransGen r.product.Inside below ref →
    ∀ root ∈ roots, ∀ root' ∈ roots, ∀ cost cost', r.recordedCost .empty [root] below = some cost →
      r.recordedCost .empty [root'] below = some cost' → cost = cost'

theorem calculation_withRoots [Platform] (r : OfferRequest) (roots : List ItemRef) :
    (r.withRoots roots).calculation none = (r.calculation none).withRoots roots := rfl

/-- What is recorded is what any walk over the top level gives. -/
theorem recordedCost_eq [Platform] {roots : List ItemRef} {w : Walk Float}
    (hw : (r.calculation none).Gives (r.withRoots roots).product.topLevel w) (cache : Formula.Cache)
    (ref : ItemRef) : r.recordedCost cache roots ref = (w.result? ref).map ItemResult.cost := by
  obtain ⟨_, v, result, hv, hcalc, hcosts⟩ := (r.withRoots roots).exists_calculate cache
  rw [calculation_withRoots] at hv hcosts
  rw [recordedCost, hcalc, ← Calculation.Gives.cost_eq ⟨_, _, _, hv.of_withRoots⟩ hw]
  dsimp only
  rw [hcosts, Calculation.result?_rollup]

/-- What is recorded at all. -/
theorem isSome_recordedCost [Platform] (cache : Formula.Cache) (roots : List ItemRef) (ref : ItemRef) :
    (r.recordedCost cache roots ref).isSome ↔
      (r.product.item? ref).isSome ∧ (r.withRoots roots).product.Reaches ref := by
  obtain ⟨_, v, result, hv, hcalc, hcosts⟩ := (r.withRoots roots).exists_calculate cache
  rw [recordedCost, hcalc]
  dsimp only
  rw [hcosts, Calculation.result?_rollup, Option.isSome_map]
  exact hv.isSome_result?_iff ref

/-- Roots whose runs agree are roots whose walks agree. -/
theorem RootsAgreeBelow.calculation [Platform] {roots : List ItemRef} {ref : ItemRef}
    (h : r.RootsAgreeBelow roots ref) : (r.calculation none).RootsAgreeBelow roots ref := by
  intro below hb root hm root' hm' w w' hw hw' result result' hr hr'
  refine h below hb root hm root' hm' result.cost result'.cost ?_ ?_
  · rw [recordedCost_eq hw, hr]; rfl
  · rw [recordedCost_eq hw', hr']; rfl

/-- Permuted roots record the same items. -/
theorem isSome_recordedCost_perm [Platform] (cache cache' : Formula.Cache) {roots roots' : List ItemRef}
    (h : roots.Perm roots') (ref : ItemRef) :
    (r.recordedCost cache roots ref).isSome ↔ (r.recordedCost cache' roots' ref).isSome := by
  have htop := Product.topLevel_perm (p := r.product) h
  rw [isSome_recordedCost, isSome_recordedCost]
  exact and_congr_right fun _ =>
    ⟨.withRoots fun _ hm => htop.mem_iff.1 hm, .withRoots fun _ hm => htop.mem_iff.2 hm⟩

/-- Permuted roots record the same cost of an item on which they agree. -/
theorem recordedCost_perm [Platform] (cache cache' : Formula.Cache) {roots roots' : List ItemRef}
    (h : roots.Perm roots') {ref : ItemRef} (hg : (r.calculation none).RootsAgreeBelow roots ref) :
    r.recordedCost cache roots ref = r.recordedCost cache' roots' ref := by
  have hs : (r.calculation none).stopAfter = none := rfl
  have hcosted := isSome_recordedCost_perm (r := r) cache cache' h ref
  obtain ⟨w, hw⟩ := Calculation.exists_gives hs (r.withRoots roots).product.topLevel
  by_cases hn : roots = []
  · subst hn
    obtain rfl := h.nil_eq
    rw [recordedCost_eq hw, recordedCost_eq hw]
  · have hn' : roots' ≠ [] := fun e => hn (e ▸ h).eq_nil
    obtain ⟨w', hw'⟩ := Calculation.exists_gives hs (r.withRoots roots').product.topLevel
    rw [recordedCost_eq hw, recordedCost_eq hw', Option.isSome_map, Option.isSome_map] at hcosted
    rw [recordedCost_eq hw, recordedCost_eq hw']
    have hsub : ∀ ref ∈ (r.withRoots roots).product.topLevel, ref ∈ roots := fun ref hm => by
      rwa [withRoots, Product.topLevel_withRoots hn] at hm
    have hsub' : ∀ ref ∈ (r.withRoots roots').product.topLevel, ref ∈ roots := fun ref hm => by
      rw [withRoots, Product.topLevel_withRoots hn'] at hm
      exact h.mem_iff.2 hm
    exact map_eq_map_of_isSome_iff hcosted fun _ _ hr hr' => hg.cost_eq hs hsub hsub' hw hw' hr hr'

/-- **The order of the roots.**  Runs over permuted roots, whatever formulas are read before, both give a
result, and they record the same items.  They record the same cost of every detail, of every binding that
reaches no cycle, and of every item if the roots agree on it and on all that it contains.  Whatever a root
alone records of an item, the run over some order of the roots does too, so two roots that disagree make
the order matter. -/
theorem calculate_perm [Platform] (r : OfferRequest) (cache cache' : Formula.Cache) {roots roots' : List ItemRef}
    (h : roots.Perm roots') :
    (∃ result, (r.withRoots roots).calculate none cache = .ok result) ∧
    (∃ result, (r.withRoots roots').calculate none cache' = .ok result) ∧
    (∀ ref, (r.recordedCost cache roots ref).isSome ↔ (r.recordedCost cache' roots' ref).isSome) ∧
    (∀ id, r.recordedCost cache roots ⟨.detail, id⟩ = r.recordedCost cache' roots' ⟨.detail, id⟩) ∧
    (∀ id, (r.withRoots [⟨.binding, id⟩]).product.Acyclic →
      r.recordedCost cache roots ⟨.binding, id⟩ = r.recordedCost cache' roots' ⟨.binding, id⟩) ∧
    (∀ ref, r.RootsAgreeBelow roots ref →
      r.recordedCost cache roots ref = r.recordedCost cache' roots' ref) ∧
    ∀ ref, ∀ root ∈ roots, ∀ cost, r.recordedCost cache [root] ref = some cost →
      ∃ order, order.Perm roots ∧ r.recordedCost cache' order ref = some cost := by
  have hs : (r.calculation none).stopAfter = none := rfl
  have hends : ∀ {ref : ItemRef}, Acc r.product.Inside ref →
      r.recordedCost cache roots ref = r.recordedCost cache' roots' ref := fun hacc =>
    recordedCost_perm cache cache' h (Calculation.rootsAgreeBelow_of_acc roots hacc)
  obtain ⟨_, _, result, -, hcalc, -⟩ := (r.withRoots roots).exists_calculate cache
  obtain ⟨_, _, result', -, hcalc', -⟩ := (r.withRoots roots').exists_calculate cache'
  refine ⟨⟨result, hcalc⟩, ⟨result', hcalc'⟩, isSome_recordedCost_perm cache cache' h,
    fun id => hends (r.product.acc_detail id), fun id hacyclic => hends ?_,
    fun ref hg => recordedCost_perm cache cache' h hg.calculation, fun ref root hm cost hcost => ?_⟩
  · exact hacyclic.acc (.root (List.mem_singleton_self _))
  · -- The root comes first in an order of its own.
    refine ⟨root :: roots.erase root, (List.perm_cons_erase hm).symm, ?_⟩
    obtain ⟨v, hv⟩ := Calculation.exists_gives hs [root]
    obtain ⟨w, hw⟩ := Calculation.exists_gives hs (root :: roots.erase root)
    rw [recordedCost_eq hv] at hcost
    obtain ⟨own, hown, rfl⟩ := Option.map_eq_some_iff.1 hcost
    rw [recordedCost_eq hw]
    exact hw.of_head hv hown

open Native

/-- In the ring, the detail costs the same whichever binding comes first. -/
theorem calculate_perm_ring :
    [(⟨.binding, "front"⟩ : ItemRef), ⟨.binding, "back"⟩].Perm [⟨.binding, "back"⟩, ⟨.binding, "front"⟩] ∧
      (ring.recordedCost .empty [⟨.binding, "front"⟩, ⟨.binding, "back"⟩] ⟨.detail, "sheet"⟩).isSome ∧
      ring.recordedCost .empty [⟨.binding, "front"⟩, ⟨.binding, "back"⟩] ⟨.detail, "sheet"⟩ =
        ring.recordedCost .empty [⟨.binding, "back"⟩, ⟨.binding, "front"⟩] ⟨.detail, "sheet"⟩ := by
  have hperm := List.Perm.swap (⟨.binding, "back"⟩ : ItemRef) ⟨.binding, "front"⟩ []
  obtain ⟨-, -, -, hdetails, -⟩ := calculate_perm ring .empty .empty hperm
  refine ⟨hperm, (isSome_recordedCost _ _ _).2 ⟨rfl, ?_⟩, hdetails "sheet"⟩
  have hback : ⟨.binding, "back"⟩ ∈ (ring.withRoots [⟨.binding, "front"⟩, ⟨.binding, "back"⟩]).product.topLevel :=
    by decide
  exact .child (.root hback) rfl (by decide)

/-- In the ring, the binding that comes second is recorded with the first one counted as zero. -/
theorem recordedCost_ring :
    [(⟨.binding, "front"⟩ : ItemRef), ⟨.binding, "back"⟩].Perm [⟨.binding, "back"⟩, ⟨.binding, "front"⟩] ∧
      ring.recordedCost .empty [⟨.binding, "front"⟩, ⟨.binding, "back"⟩] ⟨.binding, "front"⟩ ≠
        ring.recordedCost .empty [⟨.binding, "back"⟩, ⟨.binding, "front"⟩] ⟨.binding, "front"⟩ := by
  have hfront : (ring.calculation none).Visits [] [⟨.binding, "front"⟩, ⟨.binding, "back"⟩]
      (.start 0 .empty) _ _ :=
    .visit List.not_mem_nil rfl rfl
      (.visit (by decide) rfl rfl
        (.visit (by decide) rfl rfl .nil rfl (.cycle (by decide) .nil)) rfl .nil) rfl
      (.done List.not_mem_nil rfl .nil)
  have hback : (ring.calculation none).Visits [] [⟨.binding, "back"⟩, ⟨.binding, "front"⟩]
      (.start 0 .empty) _ _ :=
    .visit List.not_mem_nil rfl rfl
      (.visit (by decide) rfl rfl .nil rfl
        (.visit (by decide) rfl rfl (.cycle (by decide) .nil) rfl .nil)) rfl
      (.done List.not_mem_nil rfl .nil)
  refine ⟨.swap _ _ _, ?_⟩
  rw [recordedCost_eq ⟨_, _, _, hfront⟩, recordedCost_eq ⟨_, _, _, hback⟩]
  intro h
  -- With the other one first, the flat price of the sheet does not show.
  have hsource := congrArg (Option.map CostRecord.source) h
  exact absurd hsource (by decide)

end OfferRequest

end Costing
