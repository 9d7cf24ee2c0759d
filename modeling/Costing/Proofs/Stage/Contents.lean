import Costing.Proofs.Stage.Alias
import Costing.Stage.Context

/-!
# Stage — what a context holds

A context is built by three loops: the wirings, of which a later one replaces what an earlier one gave to the
same name, then the results in the records of the earlier stages and then their costs, which are skipped where
the name is taken.  Each step is read back at one name (`get?_addInput`, `get?_addAlias`), and a loop whose
steps read back alike reads back as a search (`get?_foldl_or`, `get?_foldl_or'`).

* `wired?`, `priorOutput?`: what the wirings give to a name, and what the results in the record of a stage have under a
  key.
* `get?_context`: what the context holds under any name.
* `get?_context_eq_some_iff`: the same with the name of an alias taken apart, which is possible in one way, and the
  costs of a stage named.
-/

namespace Costing

namespace Surroundings

open Costing.Formula (Context)

variable {w : Surroundings}

/-! ### Loops read back at one name -/

section Loop

variable {α β : Type} {step : Dict α → β → Dict α} {key : String} {given? : β → Option α}

/-- A loop that puts nothing where something is keeps the first. -/
theorem get?_foldl_or (h : ∀ d b, (step d b).get? key = (d.get? key).or (given? b)) (bs : List β) (d : Dict α) :
    (bs.foldl step d).get? key = (d.get? key).or (bs.findSome? given?) := by
  induction bs generalizing d with
  | nil => simp
  | cons b bs ih =>
      rw [List.foldl_cons, ih, h, Option.or_assoc]
      cases hb : given? b <;> simp [hb]

/-- A loop that replaces what is there keeps the last. -/
theorem get?_foldl_or' (h : ∀ d b, (step d b).get? key = (given? b).or (d.get? key)) (bs : List β) (d : Dict α) :
    (bs.foldl step d).get? key = (bs.reverse.findSome? given?).or (d.get? key) := by
  induction bs generalizing d with
  | nil => simp
  | cons b bs ih =>
      rw [List.foldl_cons, ih, h, List.reverse_cons, List.findSome?_append, Option.or_assoc]
      simp

end Loop

/-! ### Wirings -/

/-- What a wiring gives to a name. -/
def given? [Json.Codec] (w : Surroundings) (x : String) (wiring : Wiring) : Option Value :=
  if Text.trim wiring.paramName = x then (w.resolve wiring.sourcePath).toOption.join else none

/-- What the wirings give to a name: the last of them counts that has the name and leads to something. -/
def wired? [Json.Codec] (w : Surroundings) (inputs : List Wiring) (x : String) : Option Value :=
  inputs.reverse.findSome? (w.given? x)

theorem get?_addInput [Json.Codec] {x : String} (ctx : Context) (wiring : Wiring) :
    (w.addInput ctx wiring).get? x = (w.given? x wiring).or (ctx.get? x) := by
  unfold addInput given?
  rcases w.resolve wiring.sourcePath with fault | _ | v
  · simp [Except.toOption]
  · simp [Except.toOption]
  · rw [Dict.get?_put]
    split <;> simp [Except.toOption]

theorem get?_foldl_addInput [Json.Codec] {x : String} (inputs : List Wiring) (ctx : Context) :
    (inputs.foldl w.addInput ctx).get? x = (w.wired? inputs x).or (ctx.get? x) :=
  get?_foldl_or' get?_addInput inputs ctx

/-- Wirings give to their own names only. -/
theorem wired?_eq_none [Json.Codec] {inputs : List Wiring} {x : String} (h : x ∉ inputs.map fun u => Text.trim u.paramName) :
    w.wired? inputs x = none := by
  rw [wired?, List.findSome?_eq_none_iff]
  intro u hu
  exact if_neg fun hname => h (List.mem_map.2 ⟨u, List.mem_reverse.1 hu, hname⟩)

/-! ### Aliases -/

/-- The results of earlier stages that have an alias. -/
def HasAlias (index : Nat) (x : String) (field : String × Value) : Prop :=
  field.2.isNull = false ∧ StageAlias.render index field.1 = x

instance (index : Nat) (x : String) (field : String × Value) : Decidable (HasAlias index x field) :=
  inferInstanceAs (Decidable (_ ∧ _))

/-- What a result of the stage at a place gives to a name. -/
def aliased? (index : Nat) (x : String) (field : String × Value) : Option Value :=
  if HasAlias index x field then some field.2 else none

theorem get?_addAlias {index : Nat} {x : String} (ctx : Context) (field : String × Value) :
    (addAlias index ctx field).get? x = (ctx.get? x).or (aliased? index x field) := by
  rw [addAlias, aliased?]
  split
  · next hskip =>
      rw [Bool.or_eq_true] at hskip
      split
      · next halias =>
          -- the result is not null, so it is skipped because its name is taken
          have htaken := hskip.resolve_left (by simp [halias.1])
          obtain ⟨v, hv⟩ := Option.isSome_iff_exists.1 (halias.2 ▸ htaken)
          rw [hv, Option.some_or]
      · rw [Option.or_none]
  · next hfree =>
      obtain ⟨hnull, hfree⟩ : field.2.isNull = false ∧ ctx.get? (StageAlias.render index field.1) = none := by
        simpa [Dict.contains] using hfree
      rw [Dict.get?_put]
      split
      · next hname => rw [← hname, hfree, if_pos ⟨hnull, rfl⟩, Option.none_or]
      · next hname => rw [if_neg fun halias => hname halias.2, Option.or_none]

/-- What the results of the earlier stages give to a name. -/
def aliases? (x : String) (prior : List (Value × Nat)) : Option Value :=
  prior.findSome? fun p => (priorFields p.1).findSome? (aliased? p.2 x)

/-- **What a context holds** under a name: what the wirings give to it, else the first alias of the name. -/
theorem get?_context [Json.Codec] (inputs : List Wiring) (x : String) :
    (w.context inputs).get? x = (w.wired? inputs x).or (aliases? x w.prior.zipIdx) := by
  have hprior (ctx : Context) (p : Value × Nat) : (addPrior ctx p).get? x =
      (ctx.get? x).or ((priorFields p.1).findSome? (aliased? p.2 x)) :=
    get?_foldl_or get?_addAlias (priorFields p.1) ctx
  rw [context, get?_foldl_or hprior, get?_foldl_addInput, Dict.get?_empty, Option.or_none]
  rfl

/-! ### The name of an alias taken apart -/

/-- What is under a key and not null. -/
def under? (key : String) (field : String × Value) : Option Value :=
  if field.1 = key ∧ field.2.isNull = false then some field.2 else none

/-- With the keys in order there is one value under a key. -/
theorem findSome?_under? {fields : List (String × Value)} (h : Entries.Sorted fields) (key : String) :
    fields.findSome? (under? key) = (Entries.get? key fields).filter (!·.isNull) := by
  induction fields with
  | nil => rfl
  | cons field rest ih =>
      obtain ⟨hfirst, hrest⟩ := List.pairwise_cons.1 h
      obtain ⟨k, v⟩ := field
      by_cases hk : k = key
      · subst hk
        have hnone : rest.findSome? (under? k) = none := by
          rw [List.findSome?_eq_none_iff]
          rintro other hother
          exact if_neg fun ⟨hsame, _⟩ => String.lt_irrefl k (hsame ▸ hfirst other hother)
        cases hv : v.isNull <;> simp [under?, Entries.get?, hv, hnone, Option.filter]
      · simp [under?, Entries.get?, hk, ih hrest]

/-- The results in the record of a stage. -/
def priorOutputs (record : Value) : List (String × Value) :=
  match record.child? (.key "outputs") with
  | some (.record fields) => fields
  | _ => []

/-- What the results in the record of a stage have under a key, unless it is null. -/
def priorOutput? (record : Value) (key : String) : Option Value :=
  (priorOutputs record).findSome? (under? key)

/-- What the record of a stage gives to a key: the result under it, else the cost, unless they are null. -/
def priorResult? (record : Value) (key : String) : Option Value :=
  (priorOutput? record key).or
    (if key ∈ costKeys then (record.child? (.key key)).filter (!·.isNull) else none)

/-- The values that are read off under some keys. -/
theorem findSome?_filterMap_under? (read : String → Option Value) (key : String) (keys : List String) :
    (keys.filterMap fun k => (read k).map (k, ·)).findSome? (under? key) =
      if key ∈ keys then (read key).filter (!·.isNull) else none := by
  induction keys with
  | nil => rfl
  | cons k keys ih =>
      by_cases hk : k = key
      · subst hk
        cases hread : read k with
        | none => simp [hread, ih]
        | some v => cases hv : v.isNull <;> simp [hread, ih, under?, hv, Option.filter]
      · cases hread : read k <;> simp [hread, ih, under?, hk, Ne.symm hk]

theorem findSome?_priorFields (record : Value) (key : String) :
    (priorFields record).findSome? (under? key) = priorResult? record key := by
  rw [priorResult?, priorOutput?, ← findSome?_filterMap_under? (fun k => record.child? (.key k)), ← List.findSome?_append]
  rfl

/-- The results of a stage give to its aliases what its record gives to their keys. -/
theorem findSome?_aliased?_render (n : Nat) (record : Value) (key : String) :
    (priorFields record).findSome? (aliased? n (StageAlias.render n key)) = priorResult? record key := by
  have hfield : aliased? n (StageAlias.render n key) = under? key := by
    funext field
    simp [aliased?, HasAlias, under?, StageAlias.render_eq_render_iff, and_comm]
  rw [hfield, findSome?_priorFields]

/-- The results of a stage give to aliases of the stage only. -/
theorem exists_of_findSome?_aliased? {n : Nat} {x : String} {record : Value} {v : Value}
    (h : (priorFields record).findSome? (aliased? n x) = some v) :
    ∃ key, x = StageAlias.render n key ∧ priorResult? record key = some v := by
  obtain ⟨field, -, hfield⟩ := List.exists_of_findSome?_eq_some h
  obtain ⟨⟨-, rfl⟩, -⟩ := Option.ite_none_right_eq_some.1 hfield
  exact ⟨field.1, rfl, (findSome?_aliased?_render n record field.1).symm.trans h⟩

/-- **What the aliases give to a name** is a result of the one stage whose alias it is. -/
theorem aliases?_eq_some_iff {x : String} {prior : List Value} {v : Value} :
    aliases? x prior.zipIdx = some v ↔
      ∃ n key record, prior[n]? = some record ∧ x = StageAlias.render n key ∧ priorResult? record key = some v := by
  constructor
  · intro h
    obtain ⟨⟨record, n⟩, hmem, hfound⟩ := List.exists_of_findSome?_eq_some h
    obtain ⟨key, hname, hresult⟩ := exists_of_findSome?_aliased? hfound
    exact ⟨n, key, record, List.mk_mem_zipIdx_iff_getElem?.1 hmem, hname, hresult⟩
  · rintro ⟨n, key, record, hget, rfl, hresult⟩
    have hmem := List.mk_mem_zipIdx_iff_getElem?.2 hget
    have hfound := (findSome?_aliased?_render n record key).trans hresult
    have hsome : (aliases? (StageAlias.render n key) prior.zipIdx).isSome :=
      List.findSome?_isSome_iff.2 ⟨_, hmem, Option.isSome_iff_exists.2 ⟨v, hfound⟩⟩
    obtain ⟨v', hv'⟩ := Option.isSome_iff_exists.1 hsome
    -- the first stage that gives something to the name is the one that the name is an alias of
    obtain ⟨⟨record', n'⟩, hmem', hfound'⟩ := List.exists_of_findSome?_eq_some hv'
    obtain ⟨key', hname, hresult'⟩ := exists_of_findSome?_aliased? hfound'
    obtain ⟨rfl, rfl⟩ := StageAlias.render_eq_render_iff.1 hname
    obtain rfl := Option.some.inj (hget.symm.trans (List.mk_mem_zipIdx_iff_getElem?.1 hmem'))
    exact hv'.trans (hresult'.symm.trans hresult)

theorem priorResult?_eq_some_iff {record v : Value} {key : String} :
    priorResult? record key = some v ↔ priorOutput? record key = some v ∨ priorOutput? record key = none ∧
      key ∈ ["operationCost", "materialCost", "totalCost"] ∧ record.child? (.key key) = some v ∧ v.isNull = false := by
  rw [priorResult?, Option.or_eq_some_iff, Option.ite_none_right_eq_some, Option.filter_eq_some_iff,
    Bool.not_eq_true']
  rfl

/-- Of results whose keys are in order, that is the one under the key, unless it is null. -/
theorem priorOutput?_of_record {record : Value} {fields : List (String × Value)}
    (hrecord : record.child? (.key "outputs") = some (.record fields)) (hsorted : Entries.Sorted fields)
    (key : String) : priorOutput? record key = (Entries.get? key fields).filter (!·.isNull) := by
  rw [priorOutput?, priorOutputs, hrecord]
  exact findSome?_under? hsorted key

theorem priorOutput?_of_not_record {record : Value}
    (h : ∀ fields, record.child? (.key "outputs") ≠ some (.record fields)) (key : String) :
    priorOutput? record key = none := by
  rw [priorOutput?, priorOutputs]
  split
  · next fields hfields => exact absurd hfields (h fields)
  · rfl

/-- **The contents of a context**: a name is read as what the last wiring of the name that leads to something
leads to, a null too.  Else, if the name is the word `stage`, the place of an earlier stage, an underscore and a key, it
is read as the result that the record of the stage has under the key, or as the cost under it if there is no such result
and the key is that of a cost; nulls do not count.  The results are looked up by key, and without a record of results
there are none.  A name is the alias of one stage and one key at most. -/
theorem get?_context_eq_some_iff [Json.Codec] (w : Surroundings) (inputs : List Wiring) :
    (∀ x v, (w.context inputs).get? x = some v ↔ w.wired? inputs x = some v ∨ w.wired? inputs x = none ∧
      ∃ (n : Nat) (key : String) (record : Value), w.prior[n]? = some record ∧ x = "stage" ++ toString n ++ "_" ++ key ∧
        (priorOutput? record key = some v ∨ priorOutput? record key = none ∧
          key ∈ ["operationCost", "materialCost", "totalCost"] ∧ record.child? (.key key) = some v ∧
          v.isNull = false)) ∧
    (∀ record fields, record.child? (.key "outputs") = some (.record fields) → Entries.Sorted fields →
      ∀ key, priorOutput? record key = (Entries.get? key fields).filter (!·.isNull)) ∧
    (∀ record : Value, (∀ fields, record.child? (.key "outputs") ≠ some (.record fields)) →
      ∀ key, priorOutput? record key = none) ∧
    ∀ (m n : Nat) (key key' : String),
      "stage" ++ toString m ++ "_" ++ key = "stage" ++ toString n ++ "_" ++ key' ↔ m = n ∧ key = key' := by
  refine ⟨fun x v => ?_, fun _ _ => priorOutput?_of_record, fun _ => priorOutput?_of_not_record,
    fun m n key key' => StageAlias.render_eq_render_iff⟩
  rw [get?_context, Option.or_eq_some_iff, aliases?_eq_some_iff]
  simp only [priorResult?_eq_some_iff, StageAlias.render]

end Surroundings

end Costing
