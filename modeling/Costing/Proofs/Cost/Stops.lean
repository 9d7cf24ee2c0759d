import Costing.Proofs.Cost.Count

/-!
# Cost — a run that is stopped

A run that is stopped after some reports does what the whole run does, up to the stage that would make
one report more.

`Calculation.Cuts k w whole stopped` relates two computations that start at the walk `w`: `whole` ends
and only adds reports, and `stopped` gives the same if there are at most `k` reports in the end, else the
first `k` of them.

* `Cuts.bind`: it is enough to look at one step after the other, since what is cut stays cut.
* `visitStages_cuts`, `visitBinding_cuts`, …: each function of the walk is cut in this way.  Only stages
  ask whether to stop; what is costed already, unknown, or noted as a cycle goes on.
* `calculate_stopAfter`: an offer that is stopped after `k` reports gives the first `k` reports if there
  are more to make, and otherwise the whole result.
-/

namespace Costing

variable {α β γ : Type}

namespace Calculation

/-! ### Cutting a computation -/

/-- A calculation that is stopped after `k` reports. -/
def stopping (c : Calculation α) (k : Nat) : Calculation α :=
  { c with stopAfter := some k }

/-- What is left of the outcome of a walk if it is stopped after `k` reports. -/
def cut (k : Nat) (r : β × Walk α) : Except Cancelled (β × Walk α) :=
  if r.2.reports.length ≤ k then .ok r else .error ⟨r.2.reports.take k⟩

/-- From the walk `w`, `whole` ends with more reports, and `stopped` is cut after `k` of them. -/
def Cuts (k : Nat) (w : Walk α) (whole stopped : Except Cancelled (β × Walk α)) : Prop :=
  ∃ r, whole = .ok r ∧ w.reports <+: r.2.reports ∧ (w.reports.length ≤ k → stopped = cut k r)

theorem cut_of_le {k : Nat} {r : β × Walk α} (h : r.2.reports.length ≤ k) : cut k r = .ok r :=
  if_pos h

/-- What goes on from a cut walk is cut at the same report. -/
theorem cut_of_lt {k : Nat} {w : Walk α} {r : β × Walk α} (h : k < w.reports.length)
    (hmore : w.reports <+: r.2.reports) : cut k r = .error ⟨w.reports.take k⟩ := by
  have hlt : k < r.2.reports.length := h.trans_le hmore.length_le
  obtain ⟨more, hr⟩ := hmore
  rw [cut, if_neg hlt.not_ge, ← hr, List.take_append_of_le_length h.le]

namespace Cuts

/-- A step that makes no report is not cut. -/
theorem ok {k : Nat} {w w' : Walk α} (b : β) (h : w'.reports = w.reports) :
    Cuts k w (.ok (b, w')) (.ok (b, w')) := by
  refine ⟨(b, w'), rfl, by rw [h], fun hk => (cut_of_le ?_).symm⟩
  rw [h]
  exact hk

/-- Before a step that makes a report, the walk asks whether to stop. -/
theorem report {k : Nat} {w next : Walk α} {whole stopped : Except Cancelled (β × Walk α)}
    {p : Progress} (hnext : next.reports = w.reports ++ [p]) (h : Cuts k next whole stopped) :
    Cuts k w whole (if decide (k ≤ w.reports.length) then .error ⟨w.reports⟩ else stopped) := by
  obtain ⟨r, hr, hmore, hstopped⟩ := h
  have hlength : next.reports.length = w.reports.length + 1 := by rw [hnext, List.length_append]; rfl
  refine ⟨r, hr, .trans ⟨[p], hnext.symm⟩ hmore, fun hk => ?_⟩
  by_cases hstop : k ≤ w.reports.length
  · -- The report would be one too many, so there are as many as were made before it.
    have heq : w.reports.length = k := le_antisymm hk hstop
    rw [decide_eq_true hstop, if_pos rfl, cut_of_lt (by omega) hmore, hnext, ← heq, List.take_left]
  · rw [decide_eq_false hstop, if_neg Bool.false_ne_true]
    exact hstopped (by omega)

/-- **One step after the other.** -/
theorem bind {k : Nat} {w : Walk α} {whole stopped : Except Cancelled (β × Walk α)}
    {f g : β × Walk α → Except Cancelled (γ × Walk α)} (h : Cuts k w whole stopped)
    (hfg : ∀ r, Cuts k r.2 (f r) (g r)) : Cuts k w (whole >>= f) (stopped >>= g) := by
  obtain ⟨r, rfl, hmore, hstopped⟩ := h
  obtain ⟨s, hs, hmore', hg⟩ := hfg r
  refine ⟨s, hs, hmore.trans hmore', fun hk => ?_⟩
  rw [hstopped hk]
  by_cases hr : r.2.reports.length ≤ k
  · rw [cut_of_le hr]
    exact hg hr
  · rw [cut_of_lt (not_le.1 hr) hmore', cut, if_neg hr]
    rfl

end Cuts

/-! ### Stages -/

variable {c : Calculation α}

theorem visitStages_cuts (hs : c.stopAfter = none) (k : Nat) (done : List (StageResult α))
    (stages : List Stage) (w : Walk α) :
    Cuts k w (c.visitStages done stages w) ((c.stopping k).visitStages done stages w) := by
  induction stages generalizing done w with
  | nil => exact .ok done rfl
  | cons stage rest ih =>
      have hgo : c.stops w = false := by rw [stops, hs]; rfl
      rw [visitStages, visitStages, hgo, if_neg Bool.false_ne_true]
      exact (ih _ _).report rfl

/-! ### Items -/

variable [Add α]

theorem visitDetail_cuts (hs : c.stopAfter = none) (k : Nat) (id : String) (w : Walk α) :
    Cuts k w (c.visitDetail id w) ((c.stopping k).visitDetail id w) := by
  unfold visitDetail
  cases w.details.get? id with
  | some item => exact .ok (some item.cost) rfl
  | none =>
      dsimp only [stopping]
      cases c.product.detail? id with
      | none => exact .ok none rfl
      | some d => exact (visitStages_cuts hs k [] d.stages w).bind fun _ => .ok _ rfl

theorem visitDetails_cuts (hs : c.stopAfter = none) (k : Nat) (ids : List String) (w : Walk α) :
    Cuts k w (c.visitDetails ids w) ((c.stopping k).visitDetails ids w) := by
  induction ids generalizing w with
  | nil => exact .ok [] rfl
  | cons id rest ih =>
      exact (visitDetail_cuts hs k id w).bind fun r => (ih r.2).bind fun _ => .ok _ rfl

variable [OfNat α 0]

/-- A binding that is met for the first time. -/
theorem visitBinding_of_some (c : Calculation α) {ancestors : List String} {id : String} {w : Walk α}
    {b : Binding} (ha : id ∉ ancestors) (hw : w.bindings.get? id = none)
    (hb : c.product.binding? id = some b) :
    c.visitBinding ancestors id w = (do
      let (details, w) ← c.visitDetails b.detailIds w
      let (bindings, w) ← c.visitBindings (id :: ancestors) b.bindingIds w
      let (stages, w) ← c.visitStages [] b.stages w
      let item := bindingResult b (details ++ bindings) stages
      return (some item.cost, w.putBinding id item)) := by
  rw [visitBinding, dif_neg ha, hw]
  dsimp only
  split
  · next hu => rw [hb] at hu; cases hu
  · next b' hb' => rw [hb] at hb'; cases hb'; rfl

/-- An unknown binding. -/
theorem visitBinding_of_none (c : Calculation α) {ancestors : List String} {id : String} {w : Walk α}
    (ha : id ∉ ancestors) (hw : w.bindings.get? id = none) (hb : c.product.binding? id = none) :
    c.visitBinding ancestors id w = .ok (none, w) := by
  rw [visitBinding, dif_neg ha, hw]
  dsimp only
  split
  · rfl
  · next hb' => rw [hb] at hb'; cases hb'

mutual

theorem visitBinding_cuts (hs : c.stopAfter = none) (k : Nat) (ancestors : List String) (id : String)
    (w : Walk α) :
    Cuts k w (c.visitBinding ancestors id w) ((c.stopping k).visitBinding ancestors id w) := by
  by_cases ha : id ∈ ancestors
  · rw [visitBinding, dif_pos ha, visitBinding, dif_pos ha]
    exact .ok (some CostRecord.zero) rfl
  cases hw : w.bindings.get? id with
  | some item =>
      rw [visitBinding, dif_neg ha, visitBinding, dif_neg ha, hw]
      exact .ok (some item.cost) rfl
  | none =>
      cases hb : c.product.binding? id with
      | none =>
          rw [visitBinding_of_none c ha hw hb, visitBinding_of_none (c.stopping k) ha hw hb]
          exact .ok none rfl
      | some b =>
          have := unseen_lt (Product.mem_bindingIds hb) ha
          rw [visitBinding_of_some c ha hw hb, visitBinding_of_some (c.stopping k) ha hw hb]
          exact (visitDetails_cuts hs k b.detailIds w).bind fun (_, w₁) =>
            (visitBindings_cuts hs k (id :: ancestors) b.bindingIds w₁).bind fun (_, w₂) =>
              (visitStages_cuts hs k [] b.stages w₂).bind fun _ => .ok _ rfl
termination_by (unseen c.product.bindingIds ancestors, 0)

theorem visitBindings_cuts (hs : c.stopAfter = none) (k : Nat) (ancestors ids : List String)
    (w : Walk α) :
    Cuts k w (c.visitBindings ancestors ids w) ((c.stopping k).visitBindings ancestors ids w) := by
  cases ids with
  | nil => rw [visitBindings, visitBindings]; exact .ok [] rfl
  | cons id rest =>
      rw [visitBindings, visitBindings]
      exact (visitBinding_cuts hs k ancestors id w).bind fun (_, w₁) =>
        (visitBindings_cuts hs k ancestors rest w₁).bind fun _ => .ok _ rfl
termination_by (unseen c.product.bindingIds ancestors, ids.length)

end

theorem visitRoots_cuts (hs : c.stopAfter = none) (k : Nat) (roots : List ItemRef) (w : Walk α) :
    Cuts k w (c.visitRoots roots w) ((c.stopping k).visitRoots roots w) := by
  induction roots generalizing w with
  | nil => exact .ok [] rfl
  | cons root rest ih =>
      have hroot : Cuts k w (c.visitRoot root w) ((c.stopping k).visitRoot root w) := by
        obtain ⟨kind, id⟩ := root
        cases kind with
        | detail => exact visitDetail_cuts hs k id w
        | binding => exact visitBinding_cuts hs k [] id w
      exact hroot.bind fun (_, w₁) => (ih w₁).bind fun _ => .ok _ rfl

end Calculation

/-! ### Offers -/

namespace OfferRequest

variable [Platform]

/-- The result of an offer that a walk over the top level leads to. -/
def resultOf (r : OfferRequest) (end_ : List (CostRecord Float) × Walk Float) : OfferResult where
  costs := (r.calculation none).rollup end_.1 end_.2
  prices := SalePrice.table (CostRecord.aggregate end_.1).totalCost r.options.quantity r.priceTypes

theorem calculate_eq_map (r : OfferRequest) (stopAfter : Option Nat) (cache : Formula.Cache) :
    r.calculate stopAfter cache =
      ((r.calculation stopAfter).visitRoots r.product.topLevel
        (.start r.product.countSteps cache)).map r.resultOf := by
  unfold calculate Calculation.run
  change (((r.calculation stopAfter).visitRoots r.product.topLevel
    (.start r.product.countSteps cache) >>= _) >>= _) = _
  cases (r.calculation stopAfter).visitRoots r.product.topLevel (.start r.product.countSteps cache) with
  | error e => rfl
  | ok p => rfl

/-- **An offer that is stopped.**  Whatever formulas are read before, and however many reports `k` the
calculation is stopped after: if the dry count has more to come, it makes the reports up to `k` and
nothing more, and gives no result; otherwise it gives the result of the calculation that is not stopped,
with all its reports. -/
theorem calculate_stopAfter (r : OfferRequest) (k : Nat) (cache : Formula.Cache) :
    ∃ result, r.calculate none cache = .ok result ∧
      result.costs.reports =
        (List.range r.product.countSteps).map (fun i => ⟨i + 1, r.product.countSteps⟩) ∧
      r.calculate (some k) cache =
        if k < r.product.countSteps then
          .error ⟨(List.range k).map fun i => ⟨i + 1, r.product.countSteps⟩⟩
        else .ok result := by
  obtain ⟨⟨costs, w⟩, hwhole, -, hstopped⟩ := Calculation.visitRoots_cuts (c := r.calculation none) rfl k
    r.product.topLevel (.start r.product.countSteps cache)
  have hcut : (r.calculation (some k)).visitRoots r.product.topLevel
      (.start r.product.countSteps cache) = Calculation.cut k (costs, w) := hstopped (Nat.zero_le k)
  have hvisits := Calculation.visitRoots_visits hwhole
  have hlength : w.reports.length = r.product.countSteps := hvisits.length_reports
  have hreports := (hvisits.counted (Calculation.counted_start r.product.countSteps cache)).reports
  rw [hlength] at hreports
  refine ⟨r.resultOf (costs, w), by rw [calculate_eq_map, hwhole]; rfl, hreports, ?_⟩
  rw [calculate_eq_map, hcut]
  by_cases hk : k < r.product.countSteps
  · rw [if_pos hk, Calculation.cut, if_neg (by rw [hlength]; exact hk.not_ge), hreports,
      ← List.map_take, List.take_range, min_eq_left hk.le]
    rfl
  · rw [if_neg hk, Calculation.cut_of_le (by rw [hlength]; exact not_lt.1 hk)]
    rfl

end OfferRequest

end Costing
