import Mathlib.Data.Option.Basic
import Costing.Regex.Footprint

/-!
# Regex — room

How much space an expression takes at most.  States that are remembered only make it less, so a bound needs nothing
of the hash values that places in the tables come from.

* `exists_mem_grow?`, `exists_mem_lead?`: what a step takes.
* `ByteTree.cost`, `sequencesCost`: what the characters of a set take, read forward and backward.
* `Takes`: a part takes at most some bytes.  `Takes.forwardSet`, `Takes.backwardSet`, `Takes.plus`, `Takes.marked`: what
  parts take.
* `fits_rep_chars`: **one or more characters of a small set keep to the limit.**
-/

namespace Costing.Regex

open Costing.Text (Range CharSet)
open Footprint (limit)

theorem exists_mem_bind {α β : Type} {o : Option α} {f : α → Option β} {P : α → Prop} {Q : β → Prop}
    (ho : ∃ a ∈ o, P a) (hf : ∀ a, P a → ∃ b ∈ f a, Q b) : ∃ b ∈ o >>= f, Q b := by
  obtain ⟨a, rfl, ha⟩ := ho
  exact hf a ha

/-! ### Steps -/

variable {f : Footprint} {n k : Nat}

theorem exists_mem_grow? (states held : Nat) (hf : f.bytes ≤ n) (hn : n + (32 * states + held) ≤ limit) :
    ∃ g ∈ f.grow? states held, g.bytes ≤ n + (32 * states + held) := by
  have hbytes : (⟨f.states + states, f.held + held⟩ : Footprint).bytes = f.bytes + (32 * states + held) := by
    simp only [Footprint.bytes]
    omega
  rw [Footprint.grow?, if_pos (by omega)]
  exact ⟨_, rfl, by omega⟩

theorem exists_mem_lead? (fork : Bool) (hf : f.bytes ≤ n) (hn : n + 4 ≤ limit) :
    ∃ g ∈ f.lead? fork, g.bytes ≤ n + 4 := by
  cases fork with
  | true => exact exists_mem_grow? 0 4 hf hn
  | false => exact ⟨f, rfl, Nat.le_add_right_of_le hf⟩

/-! ### Sets of characters -/

namespace ByteTree

/-- The branches of a state. -/
def width : ByteTree → Nat
  | leaf => 0
  | branch before _ _ => width before + 1

/-- The bytes that the states below a tree's own take at most. -/
def cost : ByteTree → Nat
  | leaf => 0
  | branch before _ rest => cost before + (cost rest + (32 + 8 * width rest))

end ByteTree

theorem Forward.exists_mem_new? {s : Forward} (branches : Branches) (place : Nat) (hs : s.footprint.bytes ≤ n)
    (hn : n + (32 + 8 * branches.length) ≤ limit) :
    ∃ r ∈ s.new? branches place, r.2.footprint.bytes ≤ n + (32 + 8 * branches.length) :=
  exists_mem_bind (exists_mem_grow? 1 _ hs hn) fun _ hf => ⟨_, rfl, hf⟩

theorem Forward.exists_mem_state? {s : Forward} (branches : Branches) (hs : s.footprint.bytes ≤ n)
    (hn : n + (32 + 8 * branches.length) ≤ limit) :
    ∃ r ∈ s.state? branches, r.2.footprint.bytes ≤ n + (32 + 8 * branches.length) := by
  rw [Forward.state?]
  split
  · split
    · exact ⟨_, rfl, Nat.le_add_right_of_le hs⟩
    · exact Forward.exists_mem_new? _ _ hs hn
  · exact Forward.exists_mem_new? _ _ hs hn

theorem Forward.exists_mem_branches? (target : Nat) (tree : ByteTree) {s : Forward} (hs : s.footprint.bytes ≤ n)
    (hn : n + tree.cost ≤ limit) :
    ∃ r ∈ Forward.branches? target tree s, r.1.length = tree.width ∧ r.2.footprint.bytes ≤ n + tree.cost := by
  induction tree generalizing s n with
  | leaf => exact ⟨_, rfl, rfl, hs⟩
  | branch before range rest ihBefore ihRest =>
      rw [ByteTree.cost] at hn ⊢
      rw [Forward.branches?]
      refine exists_mem_bind (ihBefore hs (by omega)) fun (branches, s) ⟨hbranches, hs⟩ => ?_
      refine exists_mem_bind (ihRest hs (by omega)) fun (inner, s) ⟨hinner, hs⟩ => ?_
      dsimp only
      split
      · exact ⟨_, rfl, congrArg (· + 1) hbranches, Nat.le_trans hs (by omega)⟩
      · have hstate := Forward.exists_mem_state? inner.reverse hs
        rw [List.length_reverse, hinner] at hstate
        exact exists_mem_bind (hstate (by omega)) fun (next, s) hs =>
          ⟨_, rfl, congrArg (· + 1) hbranches, Nat.le_trans hs (by omega)⟩

theorem Backward.exists_mem_new? {s : Backward} (next : Nat) (range : Range) (place : Nat) (hs : s.footprint.bytes ≤ n)
    (hn : n + 32 ≤ limit) : ∃ r ∈ s.new? next range place, r.2.footprint.bytes ≤ n + 32 :=
  exists_mem_bind (exists_mem_grow? 1 0 hs hn) fun _ hf => ⟨_, rfl, hf⟩

theorem Backward.exists_mem_state? {s : Backward} (next : Nat) (range : Range) (hs : s.footprint.bytes ≤ n)
    (hn : n + 32 ≤ limit) : ∃ r ∈ s.state? next range, r.2.footprint.bytes ≤ n + 32 := by
  rw [Backward.state?]
  split
  · split
    · exact ⟨_, rfl, Nat.le_add_right_of_le hs⟩
    · exact Backward.exists_mem_new? _ _ _ hs hn
  · exact Backward.exists_mem_new? _ _ _ hs hn

theorem Backward.exists_mem_sequence? (next : Nat) (ranges : List Range) {s : Backward} (hs : s.footprint.bytes ≤ n)
    (hn : n + 32 * ranges.length ≤ limit) :
    ∃ t ∈ Backward.sequence? next ranges s, t.footprint.bytes ≤ n + 32 * ranges.length := by
  induction ranges generalizing next s n with
  | nil => exact ⟨s, rfl, hs⟩
  | cons range rest ih =>
      rw [List.length_cons, Nat.mul_add_one, Nat.add_comm (32 * rest.length), ← Nat.add_assoc] at hn ⊢
      rw [Backward.sequence?]
      exact exists_mem_bind (Backward.exists_mem_state? next range hs (by omega)) fun (id, s) hs => ih id hs hn

/-- The bytes that sequences take at most, read backward. -/
def sequencesCost : List (List Range) → Nat
  | [] => 0
  | ranges :: rest => 32 * ranges.length + 4 + sequencesCost rest

theorem Backward.exists_mem_sequences? (target : Nat) (sequences : List (List Range)) {s : Backward}
    (hs : s.footprint.bytes ≤ n) (hn : n + sequencesCost sequences ≤ limit) :
    ∃ t ∈ Backward.sequences? target sequences s, t.footprint.bytes ≤ n + sequencesCost sequences := by
  induction sequences generalizing s n with
  | nil => exact ⟨s, rfl, hs⟩
  | cons ranges rest ih =>
      rw [sequencesCost, ← Nat.add_assoc, ← Nat.add_assoc] at hn ⊢
      rw [Backward.sequences?]
      refine exists_mem_bind (Backward.exists_mem_sequence? target ranges hs (by omega)) fun s hs => ?_
      exact exists_mem_bind (exists_mem_grow? 0 4 hs (by omega)) fun f hf => ih hf hn

/-! ### Parts -/

/-- A part takes at most some bytes. -/
def Takes (part : Part) (k : Nat) : Prop :=
  ∀ ⦃f : Footprint⦄ ⦃n : Nat⦄, f.bytes ≤ n → n + k ≤ limit → ∃ r ∈ part f, r.2.bytes ≤ n + k

namespace Takes

variable {part : Part}

theorem forwardSet (tree : ByteTree) : Takes (Part.forwardSet tree) (32 + tree.cost + (32 + 8 * tree.width)) := by
  intro f n hf hn
  refine exists_mem_bind (exists_mem_grow? 1 0 hf (by omega)) fun f hf => ?_
  refine exists_mem_bind (Forward.exists_mem_branches? _ tree (s := { footprint := f }) hf (by omega))
    fun (branches, s) ⟨hbranches, hs⟩ => ?_
  have hstate := Forward.exists_mem_state? branches.reverse hs
  rw [List.length_reverse, hbranches] at hstate
  exact exists_mem_bind (hstate (by omega)) fun (_, s) hs => ⟨_, rfl, Nat.le_trans hs (by omega)⟩

theorem backwardSet (sequences : List (List Range)) : Takes (Part.backwardSet sequences) (64 + sequencesCost sequences) := by
  intro f n hf hn
  refine exists_mem_bind (exists_mem_grow? 2 0 hf (by omega)) fun f hf => ?_
  exact exists_mem_bind (Backward.exists_mem_sequences? _ sequences (s := { footprint := f }) hf (by omega))
    fun s hs => ⟨_, rfl, Nat.le_trans hs (by omega)⟩

theorem plus (h : Takes part k) : Takes (part.plus 1) (k + 40) := by
  intro f n hf hn
  refine exists_mem_bind (P := fun r => r.2.bytes ≤ n + k) ?_ fun (fork, f) hf => ?_
  · exact exists_mem_bind (h hf (by omega)) fun r hr => ⟨r, rfl, hr⟩
  · refine exists_mem_bind (exists_mem_grow? 1 4 hf (by omega)) fun f hf => ?_
    exact exists_mem_bind (exists_mem_lead? fork hf (by omega)) fun f hf => ⟨_, rfl, hf⟩

theorem marked {piece : Piece} (h : Takes piece.part k) : Takes (Piece.marked piece).part (k + 68) := by
  intro f n hf hn
  rw [Piece.part]
  refine exists_mem_bind (exists_mem_grow? 1 0 hf (by omega)) fun f hf => ?_
  refine exists_mem_bind (h hf (by omega)) fun (fork, f) hf => ?_
  refine exists_mem_bind (exists_mem_grow? 1 0 hf (by omega)) fun f hf => ?_
  exact exists_mem_bind (exists_mem_lead? fork hf (by omega)) fun f hf => ⟨_, rfl, Nat.le_trans hf (by omega)⟩

end Takes

/-! ### Expressions -/

/-- The bytes that the characters of a set take at most. -/
def setCost (backward : Bool) (set : CharSet) : Nat :=
  if backward then 64 + sequencesCost (set.ranges.flatMap Text.Utf8.sequences)
  else 32 + (ByteTree.ofSet set).cost + (32 + 8 * (ByteTree.ofSet set).width)

theorem takes_chars {set : CharSet} (hset : set.isAscii = false) (backward : Bool) :
    Takes (Piece.ofRegex backward (.chars set)).part (setCost backward set) := by
  have hpiece : Piece.ofRegex backward (.chars set) = Piece.ofSet backward set := by rw [Piece.ofRegex]
  rw [hpiece, Piece.ofSet, if_neg (Bool.eq_false_iff.1 hset)]
  cases backward with
  | false =>
      intro f n hf hn
      rw [if_neg Bool.false_ne_true, Piece.part]
      exact Takes.forwardSet _ hf hn
  | true =>
      intro f n hf hn
      rw [if_pos rfl, Piece.part]
      exact Takes.backwardSet _ hf hn

theorem takes_rep {r : Regex} {backward greedy : Bool} (h : Takes (Piece.ofRegex backward r).part k) :
    Takes (Piece.ofRegex backward (.rep r 1 none greedy)).part (k + 40) := by
  intro f n hf hn
  rw [Piece.ofRegex, Piece.part]
  exact h.plus hf hn

theorem takes_group {r : Regex} {backward : Bool} (index : Nat) (h : Takes (Piece.ofRegex backward r).part k) :
    Takes (Piece.ofRegex backward (.group index r)).part (k + 68) := by
  intro f n hf hn
  rw [Piece.ofRegex]
  cases backward with
  | false => exact h.marked hf hn
  | true =>
      obtain ⟨r, hr, hbytes⟩ := h hf (by omega)
      exact ⟨r, hr, by omega⟩

theorem isSome_footprint? {r : Regex} {backward : Bool} (h : Takes (Piece.ofRegex backward (.group 0 r)).part k)
    (hk : k + 148 ≤ limit) : (footprint? backward r).isSome := by
  have hrest (f : Footprint) (hf : f.bytes ≤ 112) : ∃ g ∈ (do
      let added ← (Piece.ofRegex backward (.group 0 r)).part f
      let f ← added.2.grow? 1 0
      f.lead? added.1), g.bytes ≤ 112 + k + 32 + 4 := by
    refine exists_mem_bind (h hf (by omega)) fun (fork, f) hf => ?_
    exact exists_mem_bind (exists_mem_grow? 1 0 hf (by omega)) fun f hf => exists_mem_lead? fork hf (by omega)
  have hempty : ({} : Footprint).bytes ≤ 0 := by decide
  have hfootprint : ∃ g ∈ footprint? backward r, g.bytes ≤ 112 + k + 32 + 4 := by
    rw [footprint?]
    dsimp only
    generalize requires _ backward r = anchored
    split
    · exact exists_mem_bind (exists_mem_grow? 1 0 hempty (by decide)) fun f hf => hrest f (Nat.le_trans hf (by decide))
    · exact exists_mem_bind (exists_mem_grow? 3 16 hempty (by decide)) fun f hf => hrest f hf
  obtain ⟨g, hg, -⟩ := hfootprint
  exact Option.isSome_of_mem hg

/-- **One or more characters of a small set** keep to the limit. -/
theorem fits_rep_chars {set : CharSet} (hset : set.isAscii = false) (hsmall : ∀ backward, setCost backward set + 256 ≤ limit)
    (greedy : Bool) : fits (.rep (.chars set) 1 none greedy) := by
  have hfootprint (backward : Bool) : (footprint? backward (.rep (.chars set) 1 none greedy)).isSome :=
    isSome_footprint? (takes_group 0 (takes_rep (takes_chars hset backward))) (hsmall backward)
  rw [fits, hfootprint, hfootprint]
  rfl

end Costing.Regex
