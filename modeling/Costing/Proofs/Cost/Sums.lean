import Mathlib.Algebra.BigOperators.Group.Multiset.Basic
import Costing.Cost.Record

/-!
# Cost — sums of amounts

What a whole takes from its stages when costs are summed level by level.  Adding amounts need not be associative, so
that a sum is not told by its summands; what can be told is that an amount is some others added up two by two
(`AddsUp`), each once.  A cost that may be absent is a sum of amounts, and absent if there are none (`Sums`).

* `AddsUp.read_eq`: where additions are read exactly, what is added up is the sum of the amounts.
* `CostRecord.Gathers`: a record is put together from the records of stages.  No stage, one stage and one more part
  do (`gathers_none`, `gathers_stage`, `Gathers.addPart`), so a whole does of what its parts do
  (`Gathers.aggregate`).
* `CostRecord.Gathers.rollsUp`: what such a record says is what can be read off the stages.
-/

namespace Costing

variable {α : Type}

/-! ### Amounts -/

section

variable [Add α]

/-- Some amounts, each once, added up two by two. -/
inductive AddsUp : Multiset α → α → Prop where
  | one (x : α) : AddsUp {x} x
  | add {s t : Multiset α} {x y : α} : AddsUp s x → AddsUp t y → AddsUp (s + t) (x + y)

/-- Some amounts added up; no amount gives no cost. -/
def Sums (amounts : Multiset α) : Option α → Prop
  | none => amounts = 0
  | some x => AddsUp amounts x

/-- Every addition of some of the amounts to some others is exact. -/
def ExactOn {M : Type} [Add M] (read : α → M) (amounts : Multiset α) : Prop :=
  ∀ s t x y, s + t ≤ amounts → AddsUp s x → AddsUp t y → read (x + y) = read x + read y

/-- What a cost is read as; an absent one counts as zero. -/
def worth {M : Type} [Zero M] (read : α → M) (cost : Option α) : M :=
  cost.elim 0 read

variable {s t : Multiset α} {x : α} {a b : Option α}

theorem AddsUp.ne_zero (h : AddsUp s x) : s ≠ 0 := by
  induction h with
  | one x => exact Multiset.singleton_ne_zero x
  | add _ _ ih _ => exact fun hzero => ih (Multiset.le_zero.1 (hzero ▸ Multiset.le_add_right _ _))

namespace Sums

/-- A cost is present if there are amounts. -/
theorem isSome_iff (h : Sums s a) : a.isSome ↔ s ≠ 0 := by
  cases a with
  | none => exact iff_of_false Bool.noConfusion (not_not_intro h)
  | some x => exact iff_of_true rfl h.ne_zero

theorem ofOption (a : Option α) : Sums (a.toList : Multiset α) a := by
  cases a with
  | none => rfl
  | some x => exact .one x

theorem add (ha : Sums s a) (hb : Sums t b) : Sums (s + t) (addCosts a b) := by
  cases a with
  | none =>
      obtain rfl : s = 0 := ha
      rw [zero_add]
      exact hb
  | some x =>
      cases b with
      | none =>
          obtain rfl : t = 0 := hb
          rw [add_zero]
          exact ha
      | some y => exact AddsUp.add ha hb

end Sums

section Exact

variable {M : Type} [AddCommMonoid M] {read : α → M} {amounts : Multiset α}

theorem ExactOn.mono (h : ExactOn read amounts) (hs : s ≤ amounts) : ExactOn read s :=
  fun u v x y huv => h u v x y (huv.trans hs)

/-- **Where additions are exact**, what is added up is the sum. -/
theorem AddsUp.read_eq (h : AddsUp s x) (hexact : ExactOn read s) : read x = (s.map read).sum := by
  induction h with
  | one x => rw [Multiset.map_singleton, Multiset.sum_singleton]
  | add hx hy ihx ihy =>
      rw [hexact _ _ _ _ le_rfl hx hy, ihx (hexact.mono (Multiset.le_add_right _ _)),
        ihy (hexact.mono (Multiset.le_add_left _ _)), Multiset.map_add, Multiset.sum_add]

theorem Sums.worth_eq (h : Sums s a) (hexact : ExactOn read s) : worth read a = (s.map read).sum := by
  cases a with
  | none =>
      obtain rfl : s = 0 := h
      rfl
  | some x => exact h.read_eq hexact

end Exact

end

/-! ### Records -/

namespace CostSource

theorem combine_eq_unresolved {a b : CostSource} :
    a.combine b = .unresolved ↔ a = .unresolved ∧ b = .unresolved := by
  cases a <;> cases b <;> decide

theorem combine_eq_fallbackApplied {a b : CostSource} :
    a.combine b = .fallbackApplied ↔ a = .fallbackApplied ∨ b = .fallbackApplied := by
  cases a <;> cases b <;> decide

end CostSource

namespace CostRecord

/-- The costs of a kind that are present. -/
def amounts (cost : CostRecord α → Option α) (stages : List (CostRecord α)) : Multiset α :=
  (stages.filterMap cost : List α)

theorem amounts_append (cost : CostRecord α → Option α) (stages more : List (CostRecord α)) :
    amounts cost (stages ++ more) = amounts cost stages + amounts cost more := by
  rw [amounts, List.filterMap_append]
  rfl

theorem amounts_singleton (cost : CostRecord α → Option α) (stage : CostRecord α) :
    amounts cost [stage] = ((cost stage).toList : Multiset α) := by
  rw [amounts, List.filterMap_cons]
  cases cost stage <;> rfl

theorem amounts_ne_zero {cost : CostRecord α → Option α} {stages : List (CostRecord α)} :
    amounts cost stages ≠ 0 ↔ ∃ stage ∈ stages, (cost stage).isSome := by
  simp [amounts, List.filterMap_eq_nil_iff, Option.isSome_iff_ne_none]

theorem sum_amounts {M : Type} [AddCommMonoid M] (read : α → M) (cost : CostRecord α → Option α)
    (stages : List (CostRecord α)) :
    ((amounts cost stages).map read).sum = ((stages.filterMap cost).map read).sum := by
  rw [amounts, Multiset.map_coe, Multiset.sum_coe]

variable [Add α]

/-- A record is put together from those of stages: costs are added up from theirs, each once, and the total also
from all costs of operations and materials. -/
structure Gathers (whole : CostRecord α) (stages : List (CostRecord α)) : Prop where
  operation : Sums (amounts operationCost stages) whole.operationCost
  material : Sums (amounts materialCost stages) whole.materialCost
  total : Sums (amounts totalCost stages) whole.totalCost
  both : Sums (amounts operationCost stages + amounts materialCost stages) whole.totalCost
  currency : whole.currency = stages.findSome? CostRecord.currency
  unresolved : whole.source = .unresolved ↔ ∀ stage ∈ stages, stage.source = .unresolved
  fallback : whole.source = .fallbackApplied ↔ ∃ stage ∈ stages, stage.source = .fallbackApplied
  logic : whole.logicApplied = stages.any CostRecord.logicApplied

theorem gathers_none : (none : CostRecord α).Gathers [] := by
  constructor <;> first | rfl | simp [none]

/-- The record of a stage, whose total is that of its two costs. -/
theorem gathers_stage {stage : CostRecord α} (h : stage.totalCost = addCosts stage.operationCost stage.materialCost) :
    stage.Gathers [stage] where
  operation := amounts_singleton _ stage ▸ .ofOption _
  material := amounts_singleton _ stage ▸ .ofOption _
  total := amounts_singleton _ stage ▸ .ofOption _
  both := by
    rw [amounts_singleton, amounts_singleton, h]
    exact (Sums.ofOption _).add (.ofOption _)
  currency := by cases h : stage.currency <;> simp [h]
  unresolved := by simp
  fallback := by simp
  logic := by simp

/-- **One more part.** -/
theorem Gathers.addPart {whole part : CostRecord α} {stages more : List (CostRecord α)} (hw : whole.Gathers stages)
    (hp : part.Gathers more) : (whole.addPart part).Gathers (stages ++ more) where
  operation := amounts_append .. ▸ hw.operation.add hp.operation
  material := amounts_append .. ▸ hw.material.add hp.material
  total := amounts_append .. ▸ hw.total.add hp.total
  both := by
    rw [amounts_append, amounts_append, add_add_add_comm]
    exact hw.both.add hp.both
  currency := by rw [List.findSome?_append, ← hw.currency, ← hp.currency]; rfl
  unresolved := by
    rw [List.forall_mem_append, ← hw.unresolved, ← hp.unresolved]
    exact CostSource.combine_eq_unresolved
  fallback := by
    simp only [List.mem_append, or_and_right, exists_or, ← hw.fallback, ← hp.fallback]
    exact CostSource.combine_eq_fallbackApplied
  logic := by rw [List.any_append, ← hw.logic, ← hp.logic]; rfl

/-- Parts one after the other, from a whole on. -/
theorem Gathers.foldl {whole : CostRecord α} {stages : List (CostRecord α)} (hw : whole.Gathers stages)
    {parts : List (CostRecord α)} {rows : List (List (CostRecord α))} (h : List.Forall₂ Gathers parts rows) :
    (parts.foldl CostRecord.addPart whole).Gathers (stages ++ rows.flatten) := by
  induction h generalizing whole stages with
  | nil => simpa using hw
  | cons hpart _ ih =>
      rw [List.foldl_cons, List.flatten_cons, ← List.append_assoc]
      exact ih (hw.addPart hpart)

/-- **A whole gathers what its parts gather**, in order. -/
theorem Gathers.aggregate {parts : List (CostRecord α)} {rows : List (List (CostRecord α))}
    (h : List.Forall₂ Gathers parts rows) : (aggregate parts).Gathers rows.flatten :=
  gathers_none.foldl h

/-- Stages after other parts. -/
theorem Gathers.aggregate_append {parts stages : List (CostRecord α)} {rows : List (List (CostRecord α))}
    (h : List.Forall₂ Gathers parts rows)
    (hstages : ∀ stage ∈ stages, stage.totalCost = addCosts stage.operationCost stage.materialCost) :
    (CostRecord.aggregate (parts ++ stages)).Gathers (rows.flatten ++ stages) := by
  have hown : List.Forall₂ Gathers stages (stages.map fun stage => [stage]) :=
    List.forall₂_map_right_iff.2 (List.forall₂_same.2 fun stage hm => gathers_stage (hstages stage hm))
  have hall := Gathers.aggregate (List.rel_append h hown)
  rwa [List.flatten_append, ← List.flatMap_def, List.flatMap_singleton'] at hall

/-! ### What a record says of stages -/

section

variable {M : Type} [AddCommMonoid M]

/-- Costs that are read exactly are the sums of those that are present, and the total is that of the two others. -/
structure ReadsAs (read : α → M) (whole : CostRecord α) (stages : List (CostRecord α)) : Prop where
  operation : worth read whole.operationCost = ((stages.filterMap operationCost).map read).sum
  material : worth read whole.materialCost = ((stages.filterMap materialCost).map read).sum
  total : worth read whole.totalCost = ((stages.filterMap totalCost).map read).sum
  both : worth read whole.totalCost = worth read whole.operationCost + worth read whole.materialCost

variable {read : α → M}

/-- The totals of stages sum up to what their costs of operations and materials do. -/
theorem sum_totals {stages : List (CostRecord α)}
    (hstages : ∀ stage ∈ stages, stage.totalCost = addCosts stage.operationCost stage.materialCost)
    (hexact : ExactOn read (amounts operationCost stages + amounts materialCost stages)) :
    ((amounts totalCost stages).map read).sum =
      ((amounts operationCost stages + amounts materialCost stages).map read).sum := by
  induction stages with
  | nil => rfl
  | cons stage rest ih =>
      obtain ⟨hstage, hrest⟩ := List.forall_mem_cons.1 hstages
      have hsplit (cost : CostRecord α → Option α) :
          amounts cost (stage :: rest) = amounts cost [stage] + amounts cost rest :=
        amounts_append cost [stage] rest
      have hgathers := gathers_stage hstage
      rw [hsplit, hsplit, add_add_add_comm] at hexact
      have hown := hexact.mono (Multiset.le_add_right _ _)
      have hone : ((amounts totalCost [stage]).map read).sum = worth read stage.totalCost := by
        rw [amounts_singleton]
        cases stage.totalCost <;> simp [worth]
      rw [hsplit, hsplit, hsplit, add_add_add_comm, Multiset.map_add, Multiset.sum_add, Multiset.map_add,
        Multiset.sum_add, ih hrest (hexact.mono (Multiset.le_add_left _ _)), hone, hgathers.both.worth_eq hown]

/-- **Where the additions of amounts are exact**, costs are sums. -/
theorem Gathers.readsAs {whole : CostRecord α} {stages : List (CostRecord α)} (h : whole.Gathers stages)
    (hstages : ∀ stage ∈ stages, stage.totalCost = addCosts stage.operationCost stage.materialCost)
    (hexact : ExactOn read (amounts operationCost stages + amounts materialCost stages)) :
    whole.ReadsAs read stages := by
  have hoperation := h.operation.worth_eq (hexact.mono (Multiset.le_add_right _ _))
  have hmaterial := h.material.worth_eq (hexact.mono (Multiset.le_add_left _ _))
  have hboth := h.both.worth_eq hexact
  constructor
  case operation => rw [hoperation, sum_amounts]
  case material => rw [hmaterial, sum_amounts]
  case total => rw [hboth, ← sum_totals hstages hexact, sum_amounts]
  case both => rw [hboth, hoperation, hmaterial, Multiset.map_add, Multiset.sum_add]

end

/-- A record rolls up some stages: it is put together from theirs, a cost is present if that of some stage is, and
however amounts are read such that their additions are exact, costs are sums. -/
structure RollsUp (whole : CostRecord α) (stages : List (CostRecord α)) : Prop extends Gathers whole stages where
  operation_isSome : whole.operationCost.isSome ↔ ∃ stage ∈ stages, stage.operationCost.isSome
  material_isSome : whole.materialCost.isSome ↔ ∃ stage ∈ stages, stage.materialCost.isSome
  total_isSome : whole.totalCost.isSome ↔ ∃ stage ∈ stages, stage.totalCost.isSome
  exact : ∀ (M : Type) [AddCommMonoid M] (read : α → M),
    ExactOn read (amounts operationCost stages + amounts materialCost stages) → whole.ReadsAs read stages

/-- **What is put together from stages rolls them up**, if their totals are those of their two costs. -/
theorem Gathers.rollsUp {whole : CostRecord α} {stages : List (CostRecord α)} (h : whole.Gathers stages)
    (hstages : ∀ stage ∈ stages, stage.totalCost = addCosts stage.operationCost stage.materialCost) :
    whole.RollsUp stages where
  toGathers := h
  operation_isSome := h.operation.isSome_iff.trans amounts_ne_zero
  material_isSome := h.material.isSome_iff.trans amounts_ne_zero
  total_isSome := h.total.isSome_iff.trans amounts_ne_zero
  exact _ _ _ hexact := h.readsAs hstages hexact

end CostRecord

end Costing
