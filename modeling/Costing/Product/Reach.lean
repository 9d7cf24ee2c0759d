import Costing.Product.Basic

/-!
# Product — Reach

What an offer reaches from its top level: an item contains others by reference, and a reference to an
unknown item leads nowhere.  An item may be reached on several ways, and through a cycle even from
itself; the number of stages (`Product.countSteps`) counts each item once.
-/

namespace Costing

/-! ### What is not seen yet -/

/-- How many of some things are not seen. -/
def unseen {β : Type} [DecidableEq β] (things seen : List β) : Nat :=
  things.countP (· ∉ seen)

/-- To see one more thing leaves no more to see. -/
theorem unseen_cons_le {β : Type} [DecidableEq β] (things seen : List β) (x : β) :
    unseen things (x :: seen) ≤ unseen things seen :=
  List.countP_mono_left fun y _ hy => by simp_all

/-- To see a thing for the first time leaves fewer to see. -/
theorem unseen_lt {β : Type} [DecidableEq β] {things seen : List β} {x : β} (hx : x ∈ things)
    (hs : x ∉ seen) : unseen things (x :: seen) < unseen things seen := by
  induction things with
  | nil => exact absurd hx List.not_mem_nil
  | cons a rest ih =>
    have hle := unseen_cons_le rest seen x
    simp only [unseen, List.countP_cons] at ih hle ⊢
    by_cases ha : a = x
    · have hnew : decide (a ∉ x :: seen) = false := by simp [ha]
      have hold : decide (a ∉ seen) = true := by simp [ha, hs]
      simp only [hnew, hold, Bool.false_eq_true, if_true, if_false]
      omega
    · have hsame : decide (a ∉ x :: seen) = decide (a ∉ seen) := by simp [ha]
      have hrest := ih ((List.mem_cons.1 hx).resolve_left fun h => ha h.symm)
      rw [hsame]
      omega

/-! ### Items by reference -/

/-- A detail or a binding. -/
inductive Item where
  | detail (d : Detail)
  | binding (b : Binding)

namespace Item

/-- The stages that an item owns. -/
def stages : Item → List Stage
  | .detail d => d.stages
  | .binding b => b.stages

/-- What an item contains, details first. -/
def children : Item → List ItemRef
  | .detail _ => []
  | .binding b => b.detailIds.map (⟨.detail, ·⟩) ++ b.bindingIds.map (⟨.binding, ·⟩)

end Item

namespace Product

/-- The first item that a reference names. -/
def item? (p : Product) (ref : ItemRef) : Option Item :=
  match ref.kind with
  | .detail => (p.detail? ref.id).map .detail
  | .binding => (p.binding? ref.id).map .binding

/-- The ids of the bindings. -/
def bindingIds (p : Product) : List String :=
  p.bindings.map Binding.id

/-- The references to all details and bindings. -/
def refs (p : Product) : List ItemRef :=
  p.details.map (⟨.detail, ·.id⟩) ++ p.bindings.map (⟨.binding, ·.id⟩)

theorem mem_of_detail? {p : Product} {id : String} {d : Detail} (h : p.detail? id = some d) :
    d ∈ p.details ∧ d.id = id :=
  ⟨List.mem_of_find?_eq_some h, by simpa using List.find?_some h⟩

theorem mem_of_binding? {p : Product} {id : String} {b : Binding} (h : p.binding? id = some b) :
    b ∈ p.bindings ∧ b.id = id :=
  ⟨List.mem_of_find?_eq_some h, by simpa using List.find?_some h⟩

theorem mem_bindingIds {p : Product} {id : String} {b : Binding} (h : p.binding? id = some b) :
    id ∈ p.bindingIds := by
  obtain ⟨hb, rfl⟩ := mem_of_binding? h
  exact List.mem_map_of_mem hb

/-- Only what is declared is known. -/
theorem mem_refs {p : Product} {ref : ItemRef} {item : Item} (h : p.item? ref = some item) :
    ref ∈ p.refs := by
  obtain ⟨kind, id⟩ := ref
  cases kind with
  | detail =>
    obtain ⟨d, hd, -⟩ := Option.map_eq_some_iff.1 h
    obtain ⟨hmem, rfl⟩ := mem_of_detail? hd
    exact List.mem_append_left _ (List.mem_map.2 ⟨d, hmem, rfl⟩)
  | binding =>
    obtain ⟨b, hb, -⟩ := Option.map_eq_some_iff.1 h
    obtain ⟨hmem, rfl⟩ := mem_of_binding? hb
    exact List.mem_append_right _ (List.mem_map.2 ⟨b, hmem, rfl⟩)

/-- The number of stages at and below some items, those of an item counted where it is first met. -/
def countFrom (p : Product) (seen : List ItemRef) : List ItemRef → Nat
  | [] => 0
  | ref :: todo =>
    if hs : ref ∈ seen then p.countFrom seen todo
    else
      match h : p.item? ref with
      | none => p.countFrom (ref :: seen) todo
      | some item =>
        have := unseen_lt (mem_refs h) hs
        item.stages.length + p.countFrom (ref :: seen) (item.children ++ todo)
termination_by todo => (unseen p.refs seen, todo.length)
decreasing_by
  · exact .right _ (Nat.lt_succ_self _)
  · exact Prod.Lex.right' _ (unseen_cons_le p.refs seen ref) (Nat.lt_succ_self _)
  · exact .left _ _ this

/-- The number of stages that the offer reaches. -/
def countSteps (p : Product) : Nat :=
  p.countFrom [] p.topLevel

end Product

end Costing
