import Costing.Cost.Walk

/-!
# Cost — the walk as a relation

`Calculation.Visits ancestors items w costs w'` says that costing `items` in order, inside
`ancestors`, leads from the walk `w` to `w'` and gives `costs`.  Details and bindings are treated
alike: an item is an ancestor, already costed, unknown, or costed now, first what it contains and then
its own stages.  The rules do not say that the walk ends, so a derivation is a walk that does.

* `Visits.preserves`: what a cycle note and a costed item preserve, a walk preserves.
* `Visits.within`: what a walk costs is inside its items.
* `visitStages_ok`: the stages of an item give the results that each gives afresh, and one report
  each.
-/

namespace Costing

variable {α : Type}

/-! ### The results of a walk by reference -/

namespace Walk

/-- The result of an item, if it is costed. -/
def result? (w : Walk α) (ref : ItemRef) : Option (ItemResult α) :=
  match ref.kind with
  | .detail => w.details.get? ref.id
  | .binding => w.bindings.get? ref.id

/-- Keeps the result of an item. -/
def put (w : Walk α) (ref : ItemRef) (result : ItemResult α) : Walk α :=
  match ref.kind with
  | .detail => w.putDetail ref.id result
  | .binding => w.putBinding ref.id result

@[simp] theorem result?_start (totalSteps : Nat) (cache : Formula.Cache) (ref : ItemRef) :
    (start totalSteps cache : Walk α).result? ref = none := by
  obtain ⟨kind, id⟩ := ref
  cases kind <;> rfl

@[simp] theorem result?_finishStage (w : Walk α) (result : StageResult α × Nat)
    (cache : Formula.Cache) : (w.finishStage result cache).result? = w.result? := rfl

@[simp] theorem reports_put (w : Walk α) (ref : ItemRef) (result : ItemResult α) :
    (w.put ref result).reports = w.reports := by
  obtain ⟨kind, id⟩ := ref
  cases kind <;> rfl

@[simp] theorem stats_put (w : Walk α) (ref : ItemRef) (result : ItemResult α) :
    (w.put ref result).stats = w.stats := by
  obtain ⟨kind, id⟩ := ref
  cases kind <;> rfl

/-- What is read after an item is put. -/
theorem result?_put (w : Walk α) (ref other : ItemRef) (result : ItemResult α) :
    (w.put ref result).result? other = if ref = other then some result else w.result? other := by
  obtain ⟨kind, id⟩ := ref
  obtain ⟨kind', id'⟩ := other
  cases kind <;> cases kind' <;>
    simp [put, result?, putDetail, putBinding, Dict.get?_put]

@[simp] theorem result?_put_self (w : Walk α) (ref : ItemRef) (result : ItemResult α) :
    (w.put ref result).result? ref = some result := by
  rw [result?_put, if_pos rfl]

theorem result?_put_of_ne (w : Walk α) {ref other : ItemRef} (h : ref ≠ other)
    (result : ItemResult α) : (w.put ref result).result? other = w.result? other := by
  rw [result?_put, if_neg h]

/-- Every result that is kept has a property. -/
def AllResults (w : Walk α) (P : ItemRef → ItemResult α → Prop) : Prop :=
  ∀ ref result, w.result? ref = some result → P ref result

theorem allResults_start (totalSteps : Nat) (cache : Formula.Cache)
    (P : ItemRef → ItemResult α → Prop) : (start totalSteps cache).AllResults P := by
  intro ref result hr
  rw [result?_start] at hr; cases hr

/-- One more result with the property, after steps that keep none. -/
theorem AllResults.put {P : ItemRef → ItemResult α → Prop} {w w' : Walk α} {ref : ItemRef}
    {result : ItemResult α} (hw : w.AllResults P) (hsame : w'.result? = w.result?)
    (h : P ref result) : (w'.put ref result).AllResults P := by
  intro other result' hr
  by_cases e : ref = other
  · subst e
    rw [result?_put_self] at hr; cases hr
    exact h
  · rw [result?_put_of_ne _ e, hsame] at hr
    exact hw other result' hr

end Walk

namespace Calculation

/-! ### Stages -/

/-- The results of stages, each costed afresh: from the results before it alone, with no formula read
before. -/
def freshStages (c : Calculation α) (done : List (StageResult α)) : List Stage → List (StageResult α)
  | [] => []
  | stage :: rest =>
    let result := (c.costStage stage done .empty).1.1
    result :: c.freshStages (done ++ [result]) rest

variable {c : Calculation α}

/-- What one stage more preserves, all stages preserve. -/
theorem visitStages_preserves {P : Walk α → Prop}
    (hP : ∀ w result cache, P w → P (w.finishStage result cache)) {stages : List Stage} :
    ∀ {done results : List (StageResult α)} {w w' : Walk α},
      c.visitStages done stages w = .ok (results, w') → P w → P w' := by
  induction stages with
  | nil =>
      intro done results w w' h hw
      cases h
      exact hw
  | cons stage rest ih =>
      intro done results w w' h hw
      rw [visitStages] at h
      split at h
      · cases h
      · exact ih h (hP _ _ _ hw)

/-- The stages of an item give what each gives afresh, and one report each. -/
theorem visitStages_ok {stages : List Stage} :
    ∀ {done results : List (StageResult α)} {w w' : Walk α},
      c.visitStages done stages w = .ok (results, w') →
      results = done ++ c.freshStages done stages ∧
        w'.reports.length = w.reports.length + stages.length := by
  induction stages with
  | nil =>
      intro done results w w' h
      cases h
      exact ⟨(List.append_nil _).symm, rfl⟩
  | cons stage rest ih =>
      intro done results w w' h
      rw [visitStages] at h
      split at h
      · cases h
      · obtain ⟨hr, hl⟩ := ih h
        rw [c.costStage_fst stage done w.cache] at hr
        refine ⟨by rw [hr, freshStages, List.append_assoc]; rfl, ?_⟩
        rw [hl, Walk.finishStage, List.length_append, List.length_cons, List.length_nil,
          List.length_cons]
        omega

theorem result?_visitStages {stages : List Stage} {done results : List (StageResult α)}
    {w w' : Walk α} (h : c.visitStages done stages w = .ok (results, w')) :
    w'.result? = w.result? :=
  visitStages_preserves (P := fun v => v.result? = w.result?)
    (fun v result cache hv => (v.result?_finishStage result cache).trans hv) h rfl

/-- Stages that are not stopped are all costed. -/
theorem exists_visitStages (hs : c.stopAfter = none) (done : List (StageResult α))
    (stages : List Stage) (w : Walk α) : ∃ r, c.visitStages done stages w = .ok r := by
  induction stages generalizing done w with
  | nil => exact ⟨_, rfl⟩
  | cons stage rest ih =>
      have hgo : c.stops w = false := by rw [stops, hs]; rfl
      rw [visitStages, hgo]
      exact ih _ _

end Calculation

/-! ### The rules -/

namespace Item

variable [Add α]

/-- The result of an item whose parts and stages are costed; a detail has no parts. -/
def result (item : Item) (parts : List (CostRecord α)) (stages : List (StageResult α)) :
    ItemResult α :=
  match item with
  | .detail d =>
    { Calculation.detailResult d stages with
      cost := .aggregate (parts ++ stages.map StageResult.cost) }
  | .binding b => Calculation.bindingResult b parts stages

@[simp] theorem result_cost (item : Item) (parts : List (CostRecord α))
    (stages : List (StageResult α)) :
    (item.result parts stages).cost = .aggregate (parts ++ stages.map StageResult.cost) := by
  cases item <;> rfl

@[simp] theorem result_stages (item : Item) (parts : List (CostRecord α))
    (stages : List (StageResult α)) : (item.result parts stages).stages = stages := by
  cases item <;> rfl

end Item

namespace Calculation

variable [Add α] [OfNat α 0]

/-- Costing items in order, inside ancestors. -/
inductive Visits (c : Calculation α) :
    List ItemRef → List ItemRef → Walk α → List (CostRecord α) → Walk α → Prop where
  /-- No item is left. -/
  | nil {ancestors : List ItemRef} {w : Walk α} : Visits c ancestors [] w [] w
  /-- An ancestor counts as zero and is noted. -/
  | cycle {ancestors items : List ItemRef} {ref : ItemRef} {w w' : Walk α}
      {costs : List (CostRecord α)} (inside : ref ∈ ancestors)
      (tail : Visits c ancestors items (w.noteCycle ref.id) costs w') :
      Visits c ancestors (ref :: items) w (.zero :: costs) w'
  /-- An item that is costed is not costed again. -/
  | done {ancestors items : List ItemRef} {ref : ItemRef} {w w' : Walk α}
      {costs : List (CostRecord α)} {result : ItemResult α} (outside : ref ∉ ancestors)
      (costed : w.result? ref = some result) (tail : Visits c ancestors items w costs w') :
      Visits c ancestors (ref :: items) w (result.cost :: costs) w'
  /-- An unknown item has no cost. -/
  | unknown {ancestors items : List ItemRef} {ref : ItemRef} {w w' : Walk α}
      {costs : List (CostRecord α)} (outside : ref ∉ ancestors) (fresh : w.result? ref = none)
      (unknown : c.product.item? ref = none) (tail : Visits c ancestors items w costs w') :
      Visits c ancestors (ref :: items) w costs w'
  /-- An item is costed inside itself, and then its own stages are. -/
  | visit {ancestors items : List ItemRef} {ref : ItemRef} {item : Item} {w w₁ w₂ w' : Walk α}
      {parts costs : List (CostRecord α)} {stages : List (StageResult α)}
      (outside : ref ∉ ancestors) (fresh : w.result? ref = none)
      (known : c.product.item? ref = some item)
      (children : Visits c (ref :: ancestors) item.children w parts w₁)
      (own : c.visitStages [] item.stages w₁ = .ok (stages, w₂))
      (tail : Visits c ancestors items (w₂.put ref (item.result parts stages)) costs w') :
      Visits c ancestors (ref :: items) w ((item.result parts stages).cost :: costs) w'

variable {c : Calculation α}

namespace Visits

/-- An ancestor gets no result while it is one. -/
theorem result?_of_mem {ancestors items : List ItemRef} {w w' : Walk α}
    {costs : List (CostRecord α)} (h : c.Visits ancestors items w costs w') {ref : ItemRef}
    (hm : ref ∈ ancestors) : w'.result? ref = w.result? ref := by
  induction h with
  | nil => rfl
  | cycle _ _ ih => exact ih hm
  | done _ _ _ ih => exact ih hm
  | unknown _ _ _ _ ih => exact ih hm
  | visit outside _ _ _ own _ ihchildren ihtail =>
      rw [ihtail hm, Walk.result?_put_of_ne, result?_visitStages own]
      · exact ihchildren (List.mem_cons_of_mem _ hm)
      · exact fun e => outside (e ▸ hm)

/-- **What a walk preserves.**  A property of walks is preserved if noting a cycle preserves it, and
so does costing the stages of a known item that has no result and keeping its result. -/
theorem preserves {P : Walk α → Prop} (hcycle : ∀ w id, P w → P (w.noteCycle id))
    (hvisit : ∀ {w w₂ ref item parts stages}, w.result? ref = none →
      c.product.item? ref = some item → c.visitStages [] item.stages w = .ok (stages, w₂) → P w →
      P (w₂.put ref (item.result parts stages)))
    {ancestors items : List ItemRef} {w w' : Walk α} {costs : List (CostRecord α)}
    (h : c.Visits ancestors items w costs w') (hw : P w) : P w' := by
  induction h with
  | nil => exact hw
  | cycle _ _ ih => exact ih (hcycle _ _ hw)
  | done _ _ _ ih => exact ih hw
  | unknown _ _ _ _ ih => exact ih hw
  | visit _ fresh known children own _ ihchildren ihtail =>
      -- The item has no result yet when its stages are costed: it was an ancestor of its children.
      have hnew := (children.result?_of_mem List.mem_cons_self).trans fresh
      exact ihtail (hvisit hnew known own (ihchildren hw))

/-- A result stays as it is. -/
theorem result?_mono {ancestors items : List ItemRef} {w w' : Walk α} {costs : List (CostRecord α)}
    (h : c.Visits ancestors items w costs w') {ref : ItemRef} {result : ItemResult α}
    (hr : w.result? ref = some result) : w'.result? ref = some result := by
  refine h.preserves (P := fun v => v.result? ref = some result) (fun _ _ hv => hv) ?_ hr
  intro v v₂ other item parts stages hnew _ own hv
  have hne : other ≠ ref := fun e => by rw [← e, hnew] at hv; cases hv
  rw [Walk.result?_put_of_ne _ hne, result?_visitStages own]
  exact hv

/-- **A walk stays within** what contains its items and is closed under containment. -/
theorem within {S : ItemRef → Prop} (hS : ∀ ref item, S ref → c.product.item? ref = some item →
      ∀ child ∈ item.children, S child)
    {ancestors items : List ItemRef} {w w' : Walk α} {costs : List (CostRecord α)}
    (h : c.Visits ancestors items w costs w') (hitems : ∀ ref ∈ items, S ref) {other : ItemRef}
    (hother : (w'.result? other).isSome) :
    (w.result? other).isSome ∨ (c.product.item? other).isSome ∧ S other := by
  induction h with
  | nil => exact .inl hother
  | cycle _ _ ih => exact ih (List.forall_mem_cons.1 hitems).2 hother
  | done _ _ _ ih => exact ih (List.forall_mem_cons.1 hitems).2 hother
  | unknown _ _ _ _ ih => exact ih (List.forall_mem_cons.1 hitems).2 hother
  | @visit _ _ ref item _ _ _ _ _ _ _ _ _ known _ own _ ihchildren ihtail =>
      obtain ⟨href, hrest⟩ := List.forall_mem_cons.1 hitems
      rcases ihtail hrest hother with hput | hin
      · by_cases e : ref = other
        · subst e
          exact .inr ⟨by rw [known]; rfl, href⟩
        · rw [Walk.result?_put_of_ne _ e, result?_visitStages own] at hput
          exact ihchildren (hS ref item href known) hput
      · exact .inr hin

end Visits

end Calculation

end Costing
