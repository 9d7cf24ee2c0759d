import Costing.Native
import Costing.Proofs.Formula.Lexeme
import Costing.Proofs.Json.Finite

/-!
# Json — the native codec

What is asked of a codec holds of the native one.

* `readsFinite_native`: **it reads documents of finite numbers**, by one case for each function of the reader.
* `refusesBlank_native`: **it reads no blank text.**
-/

namespace Costing.Json

/-! ### Finite numbers -/

theorem finite_of_readNumber? {cs rest : List Char} {j : Json} (h : readNumber? cs = some (j, rest)) :
    j.Finite := by
  have hnumber (negative : Bool) (x : Float) :
      (if x.isFinite then number (if negative then -x else x) else unreadable).Finite := by
    split
    · next hx =>
        refine .number ?_
        split
        · exact (Number.isFinite_neg x).trans hx
        · exact hx
    · exact .unreadable
  unfold readNumber? at h
  dsimp only at h
  simp only [Option.bind_eq_bind, Option.bind_eq_some_iff, Prod.exists] at h
  obtain ⟨whole, _, -, fraction, _, -, exponent, _, -, h⟩ := h
  split at h
  all_goals
    dsimp only at h
    split at h
    · next hnatural =>
        cases h
        exact .natural (of_decide_eq_true (Bool.and_eq_true_iff.1 hnatural).2)
    · cases h
      exact hnumber _ _

theorem finite_ofMembers {members : List (Option String × Json)} (h : ∀ m ∈ members, m.2.Finite) :
    (ofMembers members).Finite := by
  unfold ofMembers
  split
  · next named hnamed =>
      refine .object fun m hm => ?_
      obtain ⟨member, hmember, hname⟩ := exists_of_mem_mapM hnamed hm
      obtain ⟨name, -, rfl⟩ := Option.map_eq_some_iff.1 hname
      exact h member hmember
  · exact .unreadable

/-- With some fuel, what is read has finite numbers. -/
structure FiniteWithin (fuel : Nat) : Prop where
  value : ∀ {depth cs j rest}, readAt? fuel depth cs = some (j, rest) → j.Finite
  items : ∀ {depth cs items rest}, readItems? fuel depth cs = some (items, rest) → ∀ j ∈ items, j.Finite
  members : ∀ {depth cs members rest}, readMembers? fuel depth cs = some (members, rest) →
    ∀ m ∈ members, m.2.Finite

namespace FiniteWithin

variable {fuel depth : Nat} {cs rest : List Char}

theorem value_succ (h : FiniteWithin fuel) {j : Json} (hread : readAt? (fuel + 1) depth cs = some (j, rest)) :
    j.Finite := by
  rw [readAt?] at hread
  split at hread
  · cases hread
  · obtain ⟨⟨s, _⟩, -, hread⟩ := Option.map_eq_some_iff.1 hread
    cases hread
    cases s with
    | some s => exact .string s
    | none => exact .unreadable
  -- past the limit of nesting there is no value
  · split at hread <;> dsimp only at hread <;> split at hread
    · cases hread
      exact .array nofun
    · obtain ⟨⟨items, _⟩, hitems, hread⟩ := Option.bind_eq_some_iff.1 hread
      cases hread
      exact .array (h.items hitems)
    · cases hread
      exact .unreadable
    · obtain ⟨_, -, hread⟩ := Option.bind_eq_some_iff.1 hread
      cases hread
      exact .unreadable
  · split at hread <;> dsimp only at hread <;> split at hread
    · cases hread
      exact finite_ofMembers nofun
    · obtain ⟨⟨members, _⟩, hmembers, hread⟩ := Option.bind_eq_some_iff.1 hread
      cases hread
      exact finite_ofMembers (h.members hmembers)
    · cases hread
      exact .unreadable
    · obtain ⟨_, -, hread⟩ := Option.bind_eq_some_iff.1 hread
      cases hread
      exact .unreadable
  · obtain ⟨_, -, hread⟩ := Option.map_eq_some_iff.1 hread
    cases hread
    exact .bool true
  · obtain ⟨_, -, hread⟩ := Option.map_eq_some_iff.1 hread
    cases hread
    exact .bool false
  · obtain ⟨_, -, hread⟩ := Option.map_eq_some_iff.1 hread
    cases hread
    exact .null
  · exact finite_of_readNumber? hread

theorem items_succ (h : FiniteWithin fuel) {items : List Json}
    (hread : readItems? (fuel + 1) depth cs = some (items, rest)) : ∀ j ∈ items, j.Finite := by
  rw [readItems?] at hread
  obtain ⟨⟨item, _⟩, hitem, hread⟩ := Option.bind_eq_some_iff.1 hread
  dsimp only at hread
  split at hread
  · cases hread
    exact List.forall_mem_singleton.2 (h.value hitem)
  · obtain ⟨⟨more, _⟩, hmore, hread⟩ := Option.bind_eq_some_iff.1 hread
    cases hread
    exact List.forall_mem_cons.2 ⟨h.value hitem, h.items hmore⟩
  · cases hread

theorem members_succ (h : FiniteWithin fuel) {members : List (Option String × Json)}
    (hread : readMembers? (fuel + 1) depth cs = some (members, rest)) : ∀ m ∈ members, m.2.Finite := by
  rw [readMembers?] at hread
  split at hread
  · obtain ⟨⟨name, _⟩, -, hread⟩ := Option.bind_eq_some_iff.1 hread
    dsimp only at hread
    split at hread
    · obtain ⟨⟨value, _⟩, hvalue, hread⟩ := Option.bind_eq_some_iff.1 hread
      dsimp only at hread
      split at hread
      · cases hread
        exact List.forall_mem_singleton.2 (h.value hvalue)
      · obtain ⟨⟨more, _⟩, hmore, hread⟩ := Option.bind_eq_some_iff.1 hread
        cases hread
        exact List.forall_mem_cons.2 ⟨h.value hvalue, h.members hmore⟩
      · cases hread
    · cases hread
  · cases hread

end FiniteWithin

theorem finiteWithin (fuel : Nat) : FiniteWithin fuel := by
  induction fuel with
  | zero => exact ⟨nofun, nofun, nofun⟩
  | succ fuel ih => exact ⟨ih.value_succ, ih.items_succ, ih.members_succ⟩

open Native

/-- **The native codec reads documents of finite numbers.** -/
theorem readsFinite_native : ReadsFinite := by
  intro text j h
  change readText? text = some j at h
  unfold readText? at h
  dsimp only at h
  split at h
  · next hread =>
      split at h
      · cases h
        exact (finiteWithin _).value hread
      · cases h
  · cases h

/-! ### Blank texts -/

variable {fuel depth : Nat} {cs : List Char}

theorem head_of_integerDigits? {read : List Char × List Char} (h : integerDigits? cs = some read) :
    ∃ c cs', cs = c :: cs' ∧ c.isDigit := by
  obtain ⟨_, hdigits, -⟩ := Option.bind_eq_some_iff.1 h
  rw [digits?] at hdigits
  obtain ⟨hne, -⟩ := Option.ite_none_left_eq_some.1 hdigits
  cases cs with
  | nil => exact absurd rfl hne
  | cons c cs =>
      refine ⟨c, cs, rfl, ?_⟩
      by_contra hc
      exact hne (by simp [hc])

/-- A number starts with a digit or with its sign. -/
theorem head_of_readNumber? {read : Json × List Char} (h : readNumber? cs = some read) :
    ∃ c cs', cs = c :: cs' ∧ (c = '-' ∨ c.isDigit) := by
  unfold readNumber? at h
  split at h
  next hsigned =>
    obtain ⟨_, hwhole, -⟩ := Option.bind_eq_some_iff.1 h
    obtain ⟨c, cs', hcs, hc⟩ := head_of_integerDigits? hwhole
    split at hsigned
    · exact ⟨_, _, rfl, .inl rfl⟩
    · cases hsigned
      exact ⟨c, cs', hcs, .inr hc⟩

/-- A document has a character that is not blank. -/
theorem exists_of_readAt? {read : Json × List Char} (h : readAt? fuel depth cs = some read) :
    ∃ c ∈ cs, Text.isBlank c = false := by
  cases fuel with
  | zero => cases h
  | succ fuel =>
      have hmem {c : Char} {rest : List Char} (heq : skipSpace cs = c :: rest) : c ∈ cs := by
        have hc : c ∈ skipSpace cs := heq ▸ List.mem_cons_self
        exact (List.dropWhile_sublist isSpace).subset hc
      rw [readAt?] at h
      split at h
      · cases h
      · next heq => exact ⟨_, hmem heq, by decide⟩
      · next heq => exact ⟨_, hmem heq, by decide⟩
      · next heq => exact ⟨_, hmem heq, by decide⟩
      · next heq => exact ⟨_, hmem heq, by decide⟩
      · next heq => exact ⟨_, hmem heq, by decide⟩
      · next heq => exact ⟨_, hmem heq, by decide⟩
      · obtain ⟨c, cs', hcs, hc⟩ := head_of_readNumber? h
        refine ⟨c, hmem hcs, ?_⟩
        obtain rfl | hdigit := hc
        · decide
        · by_contra hblank
          rw [Formula.not_isDigit_of_isBlank (Bool.not_eq_false _ ▸ hblank)] at hdigit
          cases hdigit

/-- **The native codec reads no blank text.** -/
theorem refusesBlank_native : RefusesBlank := by
  intro text hblank
  show readText? text = none
  unfold readText?
  dsimp only
  split
  · next hread =>
      obtain ⟨c, hc, hnot⟩ := exists_of_readAt? hread
      exact absurd ((List.all_eq_true.1 hblank c hc).symm.trans hnot) nofun
  · rfl

end Costing.Json
