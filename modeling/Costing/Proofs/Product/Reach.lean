import Mathlib.Algebra.BigOperators.Group.Finset.Basic
import Mathlib.Algebra.GroupWithZero.Nat
import Costing.Product.Reach

/-!
# Product — what an offer reaches

`Product.Reaches` is reachability from the top level: an item of the top level is reached, and so is
whatever a reached item contains.  `Product.reached` is the finite set of the known items among them.

**The dry count** (`countSteps_eq_sum`): the count that goes from item to item, leaving out those it
has met, is the sum of the stages over `Product.reached`.  The items met from `todo` are what
`Product.Meets` says: each once, closed under containment, and nothing that is not reached.
-/

namespace Costing.Product

variable {p : Product}

/-! ### Reachability -/

/-- The offer reaches an item: it is of the top level, or a reached item contains it. -/
inductive Reaches (p : Product) : ItemRef → Prop where
  | root {ref : ItemRef} : ref ∈ p.topLevel → p.Reaches ref
  | child {parent ref : ItemRef} {item : Item} :
      p.Reaches parent → p.item? parent = some item → ref ∈ item.children → p.Reaches ref

/-- The stages of an item; an unknown one has none. -/
def stagesOf (p : Product) (ref : ItemRef) : List Stage :=
  (p.item? ref).elim [] Item.stages

@[simp] theorem stagesOf_of_some {ref : ItemRef} {item : Item} (h : p.item? ref = some item) :
    p.stagesOf ref = item.stages := by
  rw [stagesOf, h]; rfl

@[simp] theorem stagesOf_of_none {ref : ItemRef} (h : p.item? ref = none) :
    p.stagesOf ref = [] := by
  rw [stagesOf, h]; rfl

/-- The stages of an item are stages of the product. -/
theorem stages_subset_of_item? {ref : ItemRef} {item : Item} (h : p.item? ref = some item) :
    item.stages ⊆ p.stages := by
  obtain ⟨kind, id⟩ := ref
  cases kind with
  | detail =>
      obtain ⟨d, hd, rfl⟩ := Option.map_eq_some_iff.1 h
      exact fun s hs => List.mem_append_left _ (List.mem_flatMap.2 ⟨d, (mem_of_detail? hd).1, hs⟩)
  | binding =>
      obtain ⟨b, hb, rfl⟩ := Option.map_eq_some_iff.1 h
      exact fun s hs => List.mem_append_right _ (List.mem_flatMap.2 ⟨b, (mem_of_binding? hb).1, hs⟩)

open Classical in
/-- The known items that the offer reaches. -/
noncomputable def reached (p : Product) : Finset ItemRef :=
  p.refs.toFinset.filter fun ref => (p.item? ref).isSome ∧ p.Reaches ref

theorem mem_reached {ref : ItemRef} :
    ref ∈ p.reached ↔ (p.item? ref).isSome ∧ p.Reaches ref := by
  simp only [reached, Finset.mem_filter, List.mem_toFinset, and_iff_right_iff_imp]
  rintro ⟨h, -⟩
  obtain ⟨item, h⟩ := Option.isSome_iff_exists.1 h
  exact mem_refs h

/-- A list of each reached item once, whatever unknown ones are among them, sums up to the sum over
`reached`. -/
theorem sum_stagesOf_eq {met : List ItemRef} (hn : met.Nodup)
    (hr : ∀ ref ∈ met, p.Reaches ref) (hm : ∀ ref ∈ p.reached, ref ∈ met) :
    (met.map fun ref => (p.stagesOf ref).length).sum =
      ∑ ref ∈ p.reached, (p.stagesOf ref).length := by
  rw [← List.sum_toFinset _ hn]
  refine (Finset.sum_subset (fun ref h => List.mem_toFinset.2 (hm ref h)) fun ref h hno => ?_).symm
  cases hi : p.item? ref with
  | none => rw [stagesOf_of_none hi]; rfl
  | some item =>
      exact absurd (mem_reached.2 ⟨by rw [hi]; rfl, hr ref (List.mem_toFinset.1 h)⟩) hno

/-! ### The dry count -/

/-- What a count from `todo` meets for the first time if `seen` is met before: each item once, every
item of `todo` and whatever a met item contains, but only what is reached. -/
structure Meets (p : Product) (seen todo met : List ItemRef) : Prop where
  nodup : met.Nodup
  fresh : ∀ ref ∈ met, ref ∉ seen
  covers : ∀ ref ∈ todo, ref ∈ seen ∨ ref ∈ met
  closed : ∀ ref ∈ met, ∀ item, p.item? ref = some item →
    ∀ child ∈ item.children, child ∈ seen ∨ child ∈ met
  reaches : (∀ ref ∈ todo, p.Reaches ref) → ∀ ref ∈ met, p.Reaches ref

namespace Meets

theorem nil (seen : List ItemRef) : p.Meets seen [] [] :=
  ⟨List.nodup_nil, nofun, nofun, nofun, fun _ => nofun⟩

/-- An item that is met before adds nothing. -/
theorem skip {seen todo met : List ItemRef} {ref : ItemRef} (hs : ref ∈ seen)
    (h : p.Meets seen todo met) : p.Meets seen (ref :: todo) met where
  nodup := h.nodup
  fresh := h.fresh
  covers := List.forall_mem_cons.2 ⟨.inl hs, h.covers⟩
  closed := h.closed
  reaches hr := h.reaches fun x hx => hr x (List.mem_cons_of_mem _ hx)

/-- An item that is met for the first time comes before what it contains. -/
theorem cons {seen todo met children : List ItemRef} {ref : ItemRef} (hs : ref ∉ seen)
    (hc : ∀ item, p.item? ref = some item → item.children = children)
    (hr : p.Reaches ref → ∀ child ∈ children, p.Reaches child)
    (h : p.Meets (ref :: seen) (children ++ todo) met) :
    p.Meets seen (ref :: todo) (ref :: met) := by
  have move : ∀ {x : ItemRef}, x ∈ ref :: seen ∨ x ∈ met → x ∈ seen ∨ x ∈ ref :: met := by
    rintro x (hx | hx)
    · rcases List.mem_cons.1 hx with rfl | hx
      · exact .inr List.mem_cons_self
      · exact .inl hx
    · exact .inr (List.mem_cons_of_mem _ hx)
  refine ⟨List.nodup_cons.2 ⟨fun hm => h.fresh ref hm List.mem_cons_self, h.nodup⟩,
    List.forall_mem_cons.2 ⟨hs, fun x hx hn => h.fresh x hx (List.mem_cons_of_mem _ hn)⟩,
    List.forall_mem_cons.2 ⟨.inr List.mem_cons_self,
      fun x hx => move (h.covers x (List.mem_append_right _ hx))⟩,
    List.forall_mem_cons.2 ⟨fun item hi child hchild => ?_,
      fun x hx item hi child hchild => move (h.closed x hx item hi child hchild)⟩,
    fun hall => ?_⟩
  · rw [hc item hi] at hchild
    exact move (h.covers child (List.mem_append_left _ hchild))
  · have href := hall ref List.mem_cons_self
    refine List.forall_mem_cons.2 ⟨href, h.reaches fun x hx => ?_⟩
    rcases List.mem_append.1 hx with hx | hx
    · exact hr href x hx
    · exact hall x (List.mem_cons_of_mem _ hx)

/-- What is met from the top level is all that is reached. -/
theorem of_topLevel {met : List ItemRef} (h : p.Meets [] p.topLevel met) {ref : ItemRef} :
    ref ∈ met ↔ p.Reaches ref := by
  refine ⟨h.reaches (fun _ hx => .root hx) ref, fun hr => ?_⟩
  induction hr with
  | root hx => exact (h.covers _ hx).resolve_left List.not_mem_nil
  | child _ hi hc ih => exact (h.closed _ ih _ hi _ hc).resolve_left List.not_mem_nil

end Meets

/-- The count is the sum over what it meets. -/
theorem countFrom_eq_sum (p : Product) (seen todo : List ItemRef) :
    ∃ met, p.Meets seen todo met ∧
      p.countFrom seen todo = (met.map fun ref => (p.stagesOf ref).length).sum := by
  induction seen, todo using countFrom.induct (p := p) with
  | case1 seen => exact ⟨[], .nil seen, by rw [countFrom]; rfl⟩
  | case2 seen ref todo hs ih =>
      obtain ⟨met, hm, hsum⟩ := ih
      exact ⟨met, hm.skip hs, by rw [countFrom, dif_pos hs, hsum]⟩
  | case3 seen ref todo hs hi ih =>
      obtain ⟨met, hm, hsum⟩ := ih
      have hnone : ∀ item, p.item? ref = some item → item.children = [] := fun item h => by
        rw [hi] at h; cases h
      refine ⟨ref :: met, .cons hs hnone (fun _ => nofun) hm, ?_⟩
      · rw [countFrom, dif_neg hs, List.map_cons, List.sum_cons, stagesOf_of_none hi, ← hsum]
        split
        · simp
        · next h => rw [hi] at h; cases h
  | case4 seen ref todo hs item hi _ ih =>
      obtain ⟨met, hm, hsum⟩ := ih
      have hsome : ∀ item', p.item? ref = some item' → item'.children = item.children :=
        fun item' h => by rw [hi] at h; cases h; rfl
      refine ⟨ref :: met, .cons hs hsome (fun hr child hc => .child hr hi hc) hm, ?_⟩
      · rw [countFrom, dif_neg hs, List.map_cons, List.sum_cons, stagesOf_of_some hi, ← hsum]
        split
        · next h => rw [hi] at h; cases h
        · next h => rw [hi] at h; cases h; rfl

/-- **The dry count** is the sum of the stages over the distinct known items that are reached. -/
theorem countSteps_eq_sum (p : Product) :
    p.countSteps = ∑ ref ∈ p.reached, (p.stagesOf ref).length := by
  obtain ⟨met, hm, hsum⟩ := p.countFrom_eq_sum [] p.topLevel
  rw [countSteps, hsum]
  exact sum_stagesOf_eq hm.nodup (fun ref => hm.of_topLevel.1)
    fun ref h => hm.of_topLevel.2 (mem_reached.1 h).2

end Costing.Product
