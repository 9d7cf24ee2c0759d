import Mathlib.Logic.Relation
import Costing.Proofs.Product.Reach

/-!
# Product — cycles of bindings

A known binding contains others (`Product.Contains`), and it is on a cycle if it contains itself in
one step or more (`Product.OnCycle`).  `Product.Inside` is containment between items of both kinds; as
only bindings contain anything, its cycles are those of bindings (`onCycle_of_inside`).

**No infinite descent** (`Acyclic.acc`).  Where the offer reaches no cycle, going from a reached item
to one inside it comes to an end: a descent meets no item twice, and there are only so many.
-/

namespace Costing.Product

open Relation

variable {p : Product}

/-- A binding contains another; both are known, and of bindings with one id the first counts. -/
def Contains (p : Product) (parent child : String) : Prop :=
  ∃ b, p.binding? parent = some b ∧ child ∈ b.bindingIds ∧ (p.binding? child).isSome

/-- A binding contains itself, in one step or more. -/
def OnCycle (p : Product) (id : String) : Prop :=
  TransGen p.Contains id id

/-- A binding is on a cycle that can be reached from a binding of the top level. -/
def OnReachedCycle (p : Product) (id : String) : Prop :=
  ∃ root, ⟨.binding, root⟩ ∈ p.topLevel ∧ ReflTransGen p.Contains root id ∧ p.OnCycle id

/-- The offer reaches no cycle. -/
def Acyclic (p : Product) : Prop :=
  ∀ id, ¬ p.OnReachedCycle id

/-- An item is contained in a known one. -/
def Inside (p : Product) (child parent : ItemRef) : Prop :=
  ∃ item, p.item? parent = some item ∧ child ∈ item.children

theorem Reaches.of_inside {child parent : ItemRef} (hr : p.Reaches parent)
    (h : p.Inside child parent) : p.Reaches child := by
  obtain ⟨item, hi, hc⟩ := h
  exact .child hr hi hc

/-- Some items are inside each of some others, at whatever depth. -/
def Under (p : Product) (ancestors items : List ItemRef) : Prop :=
  ∀ ref ∈ items, ∀ above ∈ ancestors, TransGen p.Inside ref above

theorem Under.tail {ancestors items : List ItemRef} {ref : ItemRef}
    (h : p.Under ancestors (ref :: items)) : p.Under ancestors items :=
  (List.forall_mem_cons.1 h).2

/-- What an item contains is also under the item itself. -/
theorem Under.children {ancestors items : List ItemRef} {ref : ItemRef} {item : Item}
    (h : p.Under ancestors (ref :: items)) (hi : p.item? ref = some item) :
    p.Under (ref :: ancestors) item.children := by
  intro child hc
  have hin : p.Inside child ref := ⟨item, hi, hc⟩
  exact List.forall_mem_cons.2
    ⟨.single hin, fun above hm => .head hin (h ref List.mem_cons_self above hm)⟩

theorem not_inside_of_unknown {child parent : ItemRef} (h : p.item? parent = none) :
    ¬ p.Inside child parent := by
  rintro ⟨item, hi, -⟩
  rw [h] at hi; cases hi

/-! ### Containment of items and of bindings -/

theorem item?_binding {id : String} {b : Binding} (h : p.binding? id = some b) :
    p.item? ⟨.binding, id⟩ = some (.binding b) :=
  congrArg (Option.map Item.binding) h

/-- What contains something is a known binding. -/
theorem Inside.binding_of_parent {child parent : ItemRef} (h : p.Inside child parent) :
    ∃ id b, parent = ⟨.binding, id⟩ ∧ p.binding? id = some b ∧ child ∈ (Item.binding b).children := by
  obtain ⟨item, hi, hc⟩ := h
  obtain ⟨kind, id⟩ := parent
  cases kind with
  | detail =>
      obtain ⟨d, -, rfl⟩ := Option.map_eq_some_iff.1 hi
      exact absurd hc List.not_mem_nil
  | binding =>
      obtain ⟨b, hb, rfl⟩ := Option.map_eq_some_iff.1 hi
      exact ⟨id, b, rfl, hb, hc⟩

theorem mem_children_binding {b : Binding} {id : String} :
    ⟨.binding, id⟩ ∈ (Item.binding b).children ↔ id ∈ b.bindingIds := by
  simp [Item.children]

theorem Contains.inside {parent child : String} (h : p.Contains parent child) :
    p.Inside ⟨.binding, child⟩ ⟨.binding, parent⟩ := by
  obtain ⟨b, hb, hc, -⟩ := h
  exact ⟨.binding b, item?_binding hb, mem_children_binding.2 hc⟩

theorem OnCycle.inside {id : String} (h : p.OnCycle id) :
    TransGen p.Inside ⟨.binding, id⟩ ⟨.binding, id⟩ :=
  (transGen_swap.2 h).lift (fun id => (⟨.binding, id⟩ : ItemRef)) fun _ _ => Contains.inside

/-- Only a known binding contains others. -/
theorem isSome_of_contains {parent child : String} (h : TransGen p.Contains parent child) :
    (p.binding? parent).isSome := by
  obtain ⟨_, ⟨b, hb, -⟩, -⟩ := TransGen.head'_iff.1 h
  rw [hb]; rfl

theorem reaches_of_contains {root id : String} (hroot : ⟨.binding, root⟩ ∈ p.topLevel)
    (h : ReflTransGen p.Contains root id) : p.Reaches ⟨.binding, id⟩ := by
  induction h with
  | refl => exact .root hroot
  | tail _ hc ih => exact ih.of_inside hc.inside

/-- A known binding is reached if a binding of the top level is or contains it, at whatever depth. -/
theorem reaches_binding_iff {id : String} (hk : (p.binding? id).isSome) :
    p.Reaches ⟨.binding, id⟩ ↔
      ∃ root, ⟨.binding, root⟩ ∈ p.topLevel ∧ ReflTransGen p.Contains root id := by
  refine ⟨fun h => ?_, fun ⟨_, hroot, hpath⟩ => reaches_of_contains hroot hpath⟩
  generalize hr : (⟨.binding, id⟩ : ItemRef) = ref at h
  induction h generalizing id with
  | root h => exact ⟨id, hr ▸ h, .refl⟩
  | child _ hi hc ih =>
      subst hr
      obtain ⟨parent, b, rfl, hb, hc⟩ := Inside.binding_of_parent ⟨_, hi, hc⟩
      obtain ⟨root, hroot, hpath⟩ := ih (by rw [hb]; rfl) rfl
      exact ⟨root, hroot, hpath.tail ⟨b, hb, mem_children_binding.1 hc, hk⟩⟩

/-- The cycles that an offer reaches are those of reached bindings. -/
theorem onReachedCycle_iff {id : String} :
    p.OnReachedCycle id ↔ p.Reaches ⟨.binding, id⟩ ∧ p.OnCycle id := by
  constructor
  · rintro ⟨root, hroot, hpath, hc⟩
    exact ⟨reaches_of_contains hroot hpath, hc⟩
  · rintro ⟨hr, hc⟩
    obtain ⟨root, hroot, hpath⟩ := (reaches_binding_iff (isSome_of_contains hc)).1 hr
    exact ⟨root, hroot, hpath, hc⟩

/-- Whatever a known binding is inside of, at whatever depth, is a binding that contains it. -/
theorem contains_of_inside {id : String} (hk : (p.binding? id).isSome) {above : ItemRef}
    (h : TransGen p.Inside ⟨.binding, id⟩ above) :
    ∃ top, above = ⟨.binding, top⟩ ∧ TransGen p.Contains top id := by
  induction h with
  | single h =>
      obtain ⟨top, b, rfl, hb, hc⟩ := h.binding_of_parent
      exact ⟨top, rfl, .single ⟨b, hb, mem_children_binding.1 hc, hk⟩⟩
  | tail _ h ih =>
      obtain ⟨mid, rfl, hmid⟩ := ih
      obtain ⟨top, b, rfl, hb, hc⟩ := h.binding_of_parent
      have hstep : p.Contains top mid :=
        ⟨b, hb, mem_children_binding.1 hc, isSome_of_contains hmid⟩
      exact ⟨top, rfl, .head hstep hmid⟩

/-- An item inside itself is a binding on a cycle. -/
theorem onCycle_of_inside {ref : ItemRef} (h : TransGen p.Inside ref ref) :
    ∃ id, ref = ⟨.binding, id⟩ ∧ p.OnCycle id := by
  obtain ⟨_, -, hlast⟩ := TransGen.tail'_iff.1 h
  obtain ⟨id, b, rfl, hb, -⟩ := hlast.binding_of_parent
  obtain ⟨top, htop, hc⟩ := contains_of_inside (by rw [hb]; rfl) h
  cases htop
  exact ⟨id, rfl, hc⟩

/-! ### Descent -/

/-- An unknown item contains nothing. -/
theorem acc_of_unknown {ref : ItemRef} (h : p.item? ref = none) : Acc p.Inside ref :=
  .intro _ fun _ hc => absurd hc (not_inside_of_unknown h)

theorem acc_of_children {ref : ItemRef} {item : Item} (hi : p.item? ref = some item)
    (h : ∀ child ∈ item.children, Acc p.Inside child) : Acc p.Inside ref := by
  refine .intro ref fun child hin => ?_
  obtain ⟨item', hi', hc⟩ := hin
  rw [hi] at hi'; cases hi'
  exact h child hc

theorem not_rel_self_of_acc {β : Type} {r : β → β → Prop} {x : β} (h : Acc r x) : ¬ r x x := by
  induction h with
  | intro x _ ih => exact fun hx => ih x hx hx

/-- A descent that comes to an end meets no cycle. -/
theorem not_onCycle_of_acc {id : String} (h : Acc p.Inside ⟨.binding, id⟩) : ¬ p.OnCycle id :=
  fun hc => not_rel_self_of_acc h.transGen hc.inside

/-- A descent along a path above a reached item ends where the offer reaches no cycle. -/
theorem Acyclic.acc_of_path (h : p.Acyclic) (path : List ItemRef) {ref : ItemRef}
    (hr : p.Reaches ref) (hp : ∀ above ∈ path, TransGen p.Inside ref above) : Acc p.Inside ref := by
  refine .intro ref fun child hc => ?_
  obtain ⟨item, hi, -⟩ := id hc
  -- A reached item above itself is a binding on a cycle, so the path meets nothing twice.
  have hnew : ref ∉ path := fun hm => by
    obtain ⟨id, rfl, hcycle⟩ := onCycle_of_inside (hp ref hm)
    exact h id (onReachedCycle_iff.2 ⟨hr, hcycle⟩)
  have := unseen_lt (mem_refs hi) hnew
  exact h.acc_of_path (ref :: path) (hr.of_inside hc) (List.forall_mem_cons.2
    ⟨.single hc, fun above hm => .head hc (hp above hm)⟩)
termination_by unseen p.refs path

/-- **No infinite descent** from what an offer without a cycle reaches. -/
theorem Acyclic.acc (h : p.Acyclic) {ref : ItemRef} (hr : p.Reaches ref) : Acc p.Inside ref :=
  h.acc_of_path [] hr nofun

/-- Where every descent from the top level ends, every descent from what is reached does. -/
theorem Reaches.acc (h : ∀ ref ∈ p.topLevel, Acc p.Inside ref) {ref : ItemRef} (hr : p.Reaches ref) :
    Acc p.Inside ref := by
  induction hr with
  | root hm => exact h _ hm
  | child _ hi hc ih => exact ih.inv ⟨_, hi, hc⟩

/-- Containment that leads to smaller ranks has no cycle. -/
theorem acyclic_of_rank (rank : String → Nat)
    (h : ∀ b ∈ p.bindings, ∀ child ∈ b.bindingIds, rank child < rank b.id) : p.Acyclic := by
  have hlt : ∀ {parent child : String}, TransGen p.Contains parent child → rank child < rank parent := by
    intro parent child ht
    induction ht with
    | single hc =>
        obtain ⟨b, hb, hc, -⟩ := hc
        obtain ⟨hmem, rfl⟩ := mem_of_binding? hb
        exact h b hmem _ hc
    | tail _ hc ih =>
        obtain ⟨b, hb, hc, -⟩ := hc
        obtain ⟨hmem, rfl⟩ := mem_of_binding? hb
        exact (h b hmem _ hc).trans ih
  rintro id ⟨_, _, _, hc⟩
  exact lt_irrefl _ (hlt hc)

end Costing.Product
