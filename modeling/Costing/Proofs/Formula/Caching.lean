import Mathlib.Data.Finset.Card
import Mathlib.Data.List.DropRight
import Costing.Formula.Cache

/-!
# Formula — calls to a cache

A cache is called any number of times, to read a text or to forget all of them.  It answers as if every text
were read afresh, and holds each text that it was given since it last forgot them, once.

* `Cache.Holds`: the invariant; a cache holds certain texts and no others.
* `Cache.step_fst`, `Cache.Holds.step`: what one call answers, and what it leaves in the cache.
* `Cache.run_eq_fresh`: any calls, one after the other.
-/

namespace Costing

/-- No key stands twice. -/
theorem Dict.nodup_keys {α : Type} (d : Dict α) : d.keys.Nodup := by
  refine List.pairwise_map.2 (d.sorted.imp fun hlt heq => ?_)
  rw [heq] at hlt
  exact String.lt_irrefl _ hlt

namespace Formula.Cache

/-! ### Calls -/

/-- A call to a cache. -/
inductive Call where
  | parse (formula : String)
  | clear

/-- The text that a call is to read. -/
def Call.text? : Call → Option String
  | .parse formula => some formula
  | .clear => none

/-- What a call answers, and the cache after it; there is no answer to `clear`. -/
def step (c : Cache) : Call → Option (Except Fault Numbered) × Cache
  | .parse formula => ((c.parse formula).1, (c.parse formula).2)
  | .clear => (none, c.clear)

/-- What calls answer, one after the other, and the cache after all of them. -/
def run (c : Cache) : List Call → List (Option (Except Fault Numbered)) × Cache
  | [] => ([], c)
  | call :: calls => ((c.step call).1 :: ((c.step call).2.run calls).1, ((c.step call).2.run calls).2)

/-- What a call answers if there is no cache. -/
def Call.fresh (call : Call) : Option (Except Fault Expr) :=
  call.text?.map parseFormula

/-- The texts read since the last `clear`, or since the first call. -/
def recent (calls : List Call) : List String :=
  (calls.rtakeWhile (·.text?.isSome)).filterMap Call.text?

theorem recent_concat_parse (calls : List Call) (formula : String) :
    recent (calls ++ [.parse formula]) = recent calls ++ [formula] := by
  rw [recent, List.rtakeWhile_concat_pos _ _ _ rfl, List.filterMap_append]
  rfl

theorem recent_concat_clear (calls : List Call) : recent (calls ++ [.clear]) = [] := by
  rw [recent, List.rtakeWhile_concat_neg _ _ _ Bool.false_ne_true, List.filterMap_nil]

theorem run_append (c : Cache) (before after : List Call) :
    c.run (before ++ after) =
      ((c.run before).1 ++ ((c.run before).2.run after).1, ((c.run before).2.run after).2) := by
  induction before generalizing c with
  | nil => rfl
  | cons call before ih => simp only [List.cons_append, run, ih]

/-! ### One call -/

/-- A cache holds an outcome for each of the texts, and for no other. -/
def Holds (c : Cache) (texts : List String) : Prop :=
  ∀ text, text ∈ c.outcomes.keys ↔ text ∈ texts

theorem holds_empty : empty.Holds [] := fun _ => Iff.rfl

/-- A call answers as if there were no cache. -/
theorem step_fst (c : Cache) (call : Call) : (c.step call).1.map (·.map Numbered.expr) = call.fresh := by
  cases call with
  | parse formula => exact congrArg some (c.parse_fst formula)
  | clear => rfl

theorem mem_keys_keepNew (c : Cache) (formula text : String) :
    text ∈ (c.keepNew formula).outcomes.keys ↔ text ∈ c.outcomes.keys ∨ text = formula := by
  rw [keepNew, Dict.mem_keys, Dict.mem_keys, Dict.get?_put]
  split
  · next heq => simp [heq]
  · next hne => simp [Ne.symm hne]

namespace Holds

variable {c : Cache} {texts : List String}

/-- Reading adds a text, unless the cache holds it. -/
theorem parse (h : c.Holds texts) (formula : String) : (c.parse formula).2.Holds (texts ++ [formula]) := by
  intro text
  rw [List.mem_append, List.mem_singleton, ← h text]
  unfold Cache.parse
  split
  · next hkept =>
      -- the text is there already
      have hmem : formula ∈ c.outcomes.keys := by rw [Dict.mem_keys, hkept]; rfl
      exact ⟨.inl, fun htext => htext.elim id fun heq => heq ▸ hmem⟩
  · exact c.mem_keys_keepNew formula text

/-- After a call, the cache holds what it should. -/
theorem step {calls : List Call} (h : c.Holds (recent calls)) (call : Call) :
    (c.step call).2.Holds (recent (calls ++ [call])) := by
  cases call with
  | parse formula => rw [recent_concat_parse]; exact h.parse formula
  | clear => rw [recent_concat_clear]; exact holds_empty

/-- A cache is as large as there are different texts in it. -/
theorem size (h : c.Holds texts) : c.size = texts.toFinset.card := by
  have hkeys : c.outcomes.keys.toFinset = texts.toFinset := by
    ext text
    rw [List.mem_toFinset, List.mem_toFinset, h text]
  rw [← hkeys, List.toFinset_card_of_nodup c.outcomes.nodup_keys]
  exact (List.length_map _).symm

end Holds

/-! ### Runs -/

/-- Calls one after the other answer as if there were no cache. -/
theorem run_fst (c : Cache) (calls : List Call) :
    (c.run calls).1.map (·.map (·.map Numbered.expr)) = calls.map Call.fresh := by
  induction calls generalizing c with
  | nil => rfl
  | cons call calls ih => rw [run, List.map_cons, List.map_cons, step_fst, ih]

/-- Calls one after the other leave in a new cache what was read since the last `clear`. -/
theorem holds_run (calls : List Call) : (empty.run calls).2.Holds (recent calls) := by
  induction calls using List.reverseRecOn with
  | nil => exact holds_empty
  | append_singleton calls call ih =>
      rw [run_append]
      exact ih.step call

/-- **A cache is transparent.**  However often a new cache is called, it answers each call as reading afresh
does, with the tree or the fault, and its size is the number of different texts that were read since it was last
cleared, those with a fault included. -/
theorem run_eq_fresh (calls : List Call) :
    (empty.run calls).1.map (·.map (·.map Numbered.expr)) = calls.map Call.fresh ∧
      (empty.run calls).2.size = (recent calls).toFinset.card :=
  ⟨run_fst empty calls, (holds_run calls).size⟩

/-- A text read twice, one with a fault, and one that was read before the last `clear`. -/
example : recent [.parse "1", .clear, .parse "w", .parse "1 +", .parse "w"] = ["w", "1 +", "w"] := rfl

end Formula.Cache

end Costing
