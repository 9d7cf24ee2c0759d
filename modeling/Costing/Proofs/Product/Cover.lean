import Costing.Proofs.Product.Cycle

/-!
# Product — what the implicit top level covers

If a product gives no roots, its top level are the items that no binding lists.  An item is covered
(`Product.Covered`) if it is inside one of them, at whatever depth.

* `reaches_iff_covered`: what the product reaches is what is covered.
* `covered_or_cutOff`: the way up from a declared item leads to the top level, or it comes back to where
  it has been, or it comes to an item that is listed in vain.  A binding that lists an item in vain is one
  with an earlier one of its id, so that it keeps the item out of the top level without containing it.
* `not_cutOff`: with distinct ids and no cycle, every way up leads to the top level.
-/

namespace Costing.Product

open Relation

variable {p : Product}

/-- An item is, or is inside, one that no binding lists. -/
def Covered (p : Product) (ref : ItemRef) : Prop :=
  ∃ top ∈ p.unreferenced, ReflTransGen p.Inside ref top

/-- A binding lists an item, but it is not the one that counts for its id. -/
def ListedInVain (p : Product) (ref : ItemRef) : Prop :=
  ∃ b ∈ p.bindings, ref ∈ (Item.binding b).children ∧ ¬ p.Inside ref ⟨.binding, b.id⟩

/-- An item is, or is inside, one that is on a cycle or listed in vain. -/
def CutOff (p : Product) (ref : ItemRef) : Prop :=
  ∃ above, ReflTransGen p.Inside ref above ∧ (TransGen p.Inside above above ∨ p.ListedInVain above)

theorem Covered.inside {child parent : ItemRef} (h : p.Inside child parent) (hp : p.Covered parent) :
    p.Covered child := by
  obtain ⟨top, htop, hpath⟩ := hp
  exact ⟨top, htop, .head h hpath⟩

theorem CutOff.inside {child parent : ItemRef} (h : p.Inside child parent) (hp : p.CutOff parent) :
    p.CutOff child := by
  obtain ⟨above, hpath, hcut⟩ := hp
  exact ⟨above, .head h hpath, hcut⟩

/-! ### Declared items -/

/-- An item is known if it is declared. -/
theorem isSome_item?_iff {ref : ItemRef} : (p.item? ref).isSome ↔ ref ∈ p.refs := by
  refine ⟨fun h => ?_, fun h => ?_⟩
  · obtain ⟨item, hi⟩ := Option.isSome_iff_exists.1 h
    exact mem_refs hi
  · rcases List.mem_append.1 h with h | h
    · obtain ⟨d, hd, rfl⟩ := List.mem_map.1 h
      rw [item?, Option.isSome_map]
      exact List.find?_isSome.2 ⟨d, hd, beq_self_eq_true _⟩
    · obtain ⟨b, hb, rfl⟩ := List.mem_map.1 h
      rw [item?, Option.isSome_map]
      exact List.find?_isSome.2 ⟨b, hb, beq_self_eq_true _⟩

/-- A declared item that is not in the implicit top level is listed by some binding. -/
theorem exists_lists_of_not_mem {ref : ItemRef} (hd : ref ∈ p.refs) (h : ref ∉ p.unreferenced) :
    ∃ b ∈ p.bindings, ref ∈ (Item.binding b).children := by
  by_contra hno
  refine h ?_
  rcases List.mem_append.1 hd with hd | hd
  · obtain ⟨d, hmem, rfl⟩ := List.mem_map.1 hd
    refine List.mem_append_left _ (List.mem_map.2 ⟨d, List.mem_filter.2 ⟨hmem, ?_⟩, rfl⟩)
    simp only [Bool.not_eq_true', List.contains_eq_mem, decide_eq_false_iff_not, childDetailIds,
      List.mem_flatMap, not_exists, not_and]
    exact fun b hb hc => hno ⟨b, hb, by simpa [Item.children] using hc⟩
  · obtain ⟨b', hmem, rfl⟩ := List.mem_map.1 hd
    refine List.mem_append_right _ (List.mem_map.2 ⟨b', List.mem_filter.2 ⟨hmem, ?_⟩, rfl⟩)
    simp only [Bool.not_eq_true', List.contains_eq_mem, decide_eq_false_iff_not, childBindingIds,
      List.mem_flatMap, not_exists, not_and]
    exact fun b hb hc => hno ⟨b, hb, mem_children_binding.2 hc⟩

/-! ### The way up -/

/-- The way up from a declared item above a path. -/
theorem covered_or_cutOff_of_path (path : List ItemRef) {ref : ItemRef} (hd : ref ∈ p.refs)
    (hp : ∀ below ∈ path, TransGen p.Inside below ref) : p.Covered ref ∨ p.CutOff ref := by
  by_cases htop : ref ∈ p.unreferenced
  · exact .inl ⟨ref, htop, .refl⟩
  · obtain ⟨b, hb, hlists⟩ := exists_lists_of_not_mem hd htop
    by_cases hin : p.Inside ref ⟨.binding, b.id⟩
    · by_cases hm : ref ∈ path
      · exact .inr ⟨ref, .refl, .inl (hp ref hm)⟩
      · have := unseen_lt hd hm
        have hparent : (⟨.binding, b.id⟩ : ItemRef) ∈ p.refs :=
          List.mem_append_right _ (List.mem_map.2 ⟨b, hb, rfl⟩)
        have hup := covered_or_cutOff_of_path (ref :: path) hparent (List.forall_mem_cons.2
          ⟨.single hin, fun below hbelow => .tail (hp below hbelow) hin⟩)
        exact hup.imp (.inside hin) (.inside hin)
    · exact .inr ⟨ref, .refl, .inr ⟨b, hb, hlists, hin⟩⟩
termination_by unseen p.refs path

/-- **The way up** from a declared item leads to the top level unless it is cut off. -/
theorem covered_or_cutOff {ref : ItemRef} (hd : ref ∈ p.refs) : p.Covered ref ∨ p.CutOff ref :=
  covered_or_cutOff_of_path [] hd (List.forall_mem_nil _)

/-- Where bindings have distinct ids, every binding counts, and nothing is listed in vain. -/
theorem not_listedInVain_of_nodup (h : p.bindingIds.Nodup) (ref : ItemRef) : ¬ p.ListedInVain ref := by
  rintro ⟨b, hb, hlists, hno⟩
  obtain ⟨found, hfound⟩ := Option.isSome_iff_exists.1
    (isSome_item?_iff.2 (List.mem_append_right _ (List.mem_map.2 ⟨b, hb, rfl⟩)))
  obtain ⟨first, hfirst, -⟩ := Option.map_eq_some_iff.1 hfound
  obtain ⟨hmem, hid⟩ := mem_of_binding? hfirst
  obtain rfl := List.inj_on_of_nodup_map h hmem hb hid
  exact hno ⟨_, item?_binding hfirst, hlists⟩

/-- Where bindings have distinct ids and none is on a cycle, nothing is cut off. -/
theorem not_cutOff (h : p.bindingIds.Nodup) (hc : ∀ id, ¬ p.OnCycle id) (ref : ItemRef) :
    ¬ p.CutOff ref := by
  rintro ⟨above, -, hcycle | hvain⟩
  · obtain ⟨id, -, hid⟩ := onCycle_of_inside hcycle
    exact hc id hid
  · exact not_listedInVain_of_nodup h above hvain

/-- **Without given roots** what is reached is what is covered. -/
theorem reaches_iff_covered (h : p.roots = []) {ref : ItemRef} : p.Reaches ref ↔ p.Covered ref := by
  have htop : p.topLevel = p.unreferenced := by rw [topLevel, h]; rfl
  constructor
  · intro hr
    induction hr with
    | root hm => exact ⟨_, htop ▸ hm, .refl⟩
    | child _ hi hc ih => exact ih.inside ⟨_, hi, hc⟩
  · rintro ⟨top, hm, hpath⟩
    induction hpath using ReflTransGen.head_induction_on with
    | refl => exact .root (htop ▸ hm)
    | head hin _ ih => exact ih.of_inside hin

end Costing.Product
