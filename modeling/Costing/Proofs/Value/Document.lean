import Costing.Proofs.Json.Finite
import Costing.Value.Document

/-!
# Value — documents of values

A value that a document denotes is written as a document that denotes it again.

* `Entries.ofList_eq_self`: entries that are in order stay as they are.
* `Json.Settled`: what is denoted by its own document.  `Json.Settled.list` is the case of lists.
* `Value.settled_of_ofJson?`: **so it is with every value of a document.**
-/

namespace Costing

/-! ### Entries in order -/

namespace Entries

variable {α : Type}

/-- A key above all others is put last. -/
theorem put_of_forall_lt {key : String} {l : Entries α} (h : ∀ e ∈ l, e.1 < key) (value : α) :
    put key value l = l ++ [(key, value)] := by
  induction l with
  | nil => rfl
  | cons e rest ih =>
      obtain ⟨k, v⟩ := e
      have hlt : k < key := h (k, v) List.mem_cons_self
      rw [put, if_neg (String.lt_asymm hlt), if_neg (ne_of_lt hlt), ih fun e he => h e (List.mem_cons_of_mem _ he)]
      rfl

theorem foldl_put_of_sorted {entries l : Entries α} (h : Sorted (entries ++ l)) :
    l.foldl (fun entries (k, v) => put k v entries) entries = entries ++ l := by
  induction l generalizing entries with
  | nil => exact (List.append_nil entries).symm
  | cons e rest ih =>
      obtain ⟨k, v⟩ := e
      obtain ⟨-, -, hbefore⟩ := List.pairwise_append.1 h
      have hput : put k v entries = entries ++ [(k, v)] :=
        put_of_forall_lt (fun d hd => hbefore d hd (k, v) List.mem_cons_self) v
      show rest.foldl _ (put k v entries) = _
      rw [hput, ih]
      · exact List.append_assoc ..
      · rwa [List.append_assoc]

/-- **Entries that are in order stay as they are.** -/
theorem ofList_eq_self {l : Entries α} (h : Sorted l) : ofList l = l :=
  foldl_put_of_sorted h

theorem sorted_foldl_put {entries : Entries α} (h : Sorted entries) (l : List (String × α)) :
    Sorted (l.foldl (fun entries (k, v) => put k v entries) entries) := by
  induction l generalizing entries with
  | nil => exact h
  | cons e rest ih => exact ih (sorted_put e.1 e.2 h)

theorem sorted_ofList (l : List (String × α)) : Sorted (ofList l) :=
  sorted_foldl_put List.Pairwise.nil l

theorem mem_of_mem_foldl_put {entries : Entries α} {l : List (String × α)} {e : String × α}
    (h : e ∈ l.foldl (fun entries (k, v) => put k v entries) entries) : e ∈ entries ∨ e ∈ l := by
  induction l generalizing entries with
  | nil => exact .inl h
  | cons d rest ih =>
      rcases ih h with h | h
      · rcases mem_put h with rfl | h
        · exact .inr List.mem_cons_self
        · exact .inl h
      · exact .inr (List.mem_cons_of_mem _ h)

/-- No entry is made up. -/
theorem mem_of_mem_ofList {l : List (String × α)} {e : String × α} (h : e ∈ ofList l) : e ∈ l :=
  (mem_of_mem_foldl_put h).resolve_left List.not_mem_nil

end Entries

/-! ### What is denoted by its own document -/

namespace Json

theorem areReadable_iff {items : List Json} : areReadable items = true ↔ ∀ j ∈ items, j.isReadable = true := by
  induction items with
  | nil => exact iff_of_true rfl nofun
  | cons item rest ih => rw [areReadable, Bool.and_eq_true, ih, List.forall_mem_cons]

theorem haveReadable_iff {members : List (String × Json)} :
    haveReadable members = true ↔ ∀ m ∈ members, m.2.isReadable = true := by
  induction members with
  | nil => exact iff_of_true rfl nofun
  | cons m rest ih => rw [haveReadable, Bool.and_eq_true, ih, List.forall_mem_cons]

variable {α : Type} {encode : α → Json} {decode : Json → Option α}

/-- What is denoted by its own document: one of finite numbers, with a value in all its parts. -/
structure Settled (encode : α → Json) (decode : Json → Option α) (a : α) : Prop where
  reads : decode (encode a) = some a
  finite : (encode a).Finite
  readable : (encode a).isReadable = true

theorem Settled.list {l : List α} (h : ∀ a ∈ l, Settled encode decode a) :
    Settled (fun l => array (l.map encode)) (list? decode) l := by
  refine ⟨mapM_map_eq_some fun a ha => (h a ha).reads, .array (List.forall_mem_map.2 fun a ha => (h a ha).finite), ?_⟩
  rw [isReadable, areReadable_iff]
  exact List.forall_mem_map.2 fun a ha => (h a ha).readable

end Json

/-! ### Values -/

namespace Value

theorem itemsToJson_eq_map (items : List Value) : itemsToJson items = items.map toJson := by
  induction items with
  | nil => rfl
  | cons item rest ih => rw [itemsToJson, ih, List.map_cons]

theorem fieldsToJson_eq_map (fields : List (String × Value)) :
    fieldsToJson fields = fields.map fun f => (f.1, f.2.toJson) := by
  induction fields with
  | nil => rfl
  | cons f rest ih => rw [fieldsToJson, ih, List.map_cons]

theorem itemsOfJson?_eq_mapM (items : List Json) : itemsOfJson? items = items.mapM ofJson? := by
  induction items with
  | nil => rfl
  | cons item rest ih =>
      rw [itemsOfJson?, ih, List.mapM_cons]

theorem fieldsOfJson?_eq_mapM (members : List (String × Json)) :
    fieldsOfJson? members = members.mapM fun m => (ofJson? m.2).map (m.1, ·) := by
  induction members with
  | nil => rfl
  | cons m rest ih =>
      rw [fieldsOfJson?, ih, List.mapM_cons]
      cases ofJson? m.2 <;> rfl

/-- The document of a value denotes the value again. -/
abbrev Settled : Value → Prop :=
  Json.Settled toJson ofJson?

theorem settled_array {values : List Value} (h : ∀ v ∈ values, Settled v) : Settled (array values) := by
  have hlist := Json.Settled.list h
  have hjson : (array values).toJson = .array (values.map toJson) := by
    rw [toJson, itemsToJson_eq_map]
  refine ⟨?_, hjson ▸ hlist.finite, hjson ▸ hlist.readable⟩
  rw [hjson, ofJson?, itemsOfJson?_eq_mapM]
  exact congrArg (Option.map array) hlist.reads

theorem settled_record {fields : List (String × Value)} (hsorted : Entries.Sorted fields)
    (h : ∀ f ∈ fields, Settled f.2) : Settled (record fields) := by
  have hjson : (record fields).toJson = .object (fields.map fun f => (f.1, f.2.toJson)) := by
    rw [toJson, fieldsToJson_eq_map]
  refine ⟨?_, ?_, ?_⟩
  · rw [hjson, ofJson?, fieldsOfJson?_eq_mapM, Json.mapM_map_eq_some]
    · rw [Option.map_some, ofFields, Entries.ofList_eq_self hsorted]
    · intro f hf
      rw [(h f hf).reads]
      rfl
  · rw [hjson]
    exact .object (List.forall_mem_map.2 fun f hf => (h f hf).finite)
  · rw [hjson, Json.isReadable, Json.haveReadable_iff]
    exact List.forall_mem_map.2 fun f hf => (h f hf).readable

/-- **A value that a document denotes is denoted by its own document.** -/
theorem settled_of_ofJson? {j : Json} (hj : j.Finite) {v : Value} (h : ofJson? j = some v) : Settled v := by
  induction hj generalizing v with
  | null =>
      cases h
      exact ⟨rfl, .null, rfl⟩
  | bool b =>
      cases h
      exact ⟨rfl, .bool b, rfl⟩
  | natural hn =>
      cases h
      exact ⟨rfl, .number (Number.isFinite_ofNat hn), rfl⟩
  | number hx =>
      cases h
      exact ⟨rfl, .number hx, rfl⟩
  | string s =>
      cases h
      exact ⟨rfl, .string s, rfl⟩
  | array _ ih =>
      obtain ⟨values, hvalues, rfl⟩ := Option.map_eq_some_iff.1 h
      rw [itemsOfJson?_eq_mapM] at hvalues
      refine settled_array fun v hv => ?_
      obtain ⟨j, hj, hv⟩ := Json.exists_of_mem_mapM hvalues hv
      exact ih j hj hv
  | object _ ih =>
      obtain ⟨fields, hfields, rfl⟩ := Option.map_eq_some_iff.1 h
      rw [fieldsOfJson?_eq_mapM] at hfields
      refine settled_record (Entries.sorted_ofList fields) fun f hf => ?_
      obtain ⟨m, hm, hf⟩ := Json.exists_of_mem_mapM hfields (Entries.mem_of_mem_ofList hf)
      obtain ⟨v, hv, rfl⟩ := Option.map_eq_some_iff.1 hf
      exact ih m hm hv
  | unreadable => cases h

/-- Only null denotes what is written as null. -/
theorem toJson_ne_null {j : Json} (hj : j ≠ .null) {v : Value} (h : ofJson? j = some v) : v.toJson ≠ .null := by
  cases j with
  | null => exact absurd rfl hj
  | bool | natural | number | string =>
      cases h
      nofun
  | array items =>
      obtain ⟨values, -, rfl⟩ := Option.map_eq_some_iff.1 h
      nofun
  | object members =>
      obtain ⟨fields, -, rfl⟩ := Option.map_eq_some_iff.1 h
      nofun
  | unreadable => cases h

end Value

end Costing
