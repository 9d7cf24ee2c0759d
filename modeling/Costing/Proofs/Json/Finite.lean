import Costing.Json.Codec
import Costing.Json.Decode
import Costing.Proofs.Number.Range
import Costing.Text.Blank

/-!
# Json — finite numbers

Numbers are finite in documents that are read, and in what such documents are decoded to.

* `Json.Finite`: every number of a document is finite.
* `Json.ReadsFinite`, `Json.RefusesBlank`, `Json.ReadsBack`: what is asked of a codec.
* `Json.Finite.fields`: the fields of structures are such.
* `Json.Gives`: what such documents are decoded to, and the lemmas for numbers, lists and fields.
-/

namespace Costing.Json

/-- Every number of a document is finite. -/
inductive Finite : Json → Prop where
  | null : Finite .null
  | bool (b : Bool) : Finite (.bool b)
  | natural {n : Nat} (h : n < naturalBound) : Finite (.natural n)
  | number {x : Float} (h : x.isFinite = true) : Finite (.number x)
  | string (s : String) : Finite (.string s)
  | array {items : List Json} (h : ∀ j ∈ items, Finite j) : Finite (.array items)
  | object {members : List (String × Json)} (h : ∀ m ∈ members, Finite m.2) : Finite (.object members)
  | unreadable : Finite .unreadable

/-! ### What is asked of a codec -/

section

variable [Codec]

/-- Documents that are read have finite numbers: a number that is written out of range is left without a value. -/
def ReadsFinite : Prop :=
  ∀ {text : String} {j : Json}, read? text = some j → j.Finite

/-- A blank text is no document. -/
def RefusesBlank : Prop :=
  ∀ text, Text.isAllBlank text = true → read? text = none

/-- A document of finite numbers, with a value in all its parts, is read back from its text. -/
def ReadsBack (j : Json) : Prop :=
  j.Finite → j.isReadable = true → read? j.compact = some j

end

/-! ### Lists -/

/-- What `mapM` gives comes from what it is given. -/
theorem exists_of_mem_mapM {α β : Type} {f : α → Option β} {l : List α} {l' : List β} (h : l.mapM f = some l')
    {b : β} (hb : b ∈ l') : ∃ a ∈ l, f a = some b := by
  induction l generalizing l' with
  | nil =>
      cases h
      cases hb
  | cons a rest ih =>
      simp only [List.mapM_cons, Option.bind_eq_bind, Option.bind_eq_some_iff] at h
      obtain ⟨first, hfirst, others, hothers, h⟩ := h
      cases h
      rcases List.mem_cons.1 hb with rfl | hb
      · exact ⟨a, List.mem_cons_self, hfirst⟩
      · obtain ⟨a', ha', hf⟩ := ih hothers hb
        exact ⟨a', List.mem_cons_of_mem _ ha', hf⟩

/-- What is read back one by one is read back. -/
theorem mapM_map_eq_some {α β : Type} {encode : α → β} {decode : β → Option α} {l : List α}
    (h : ∀ a ∈ l, decode (encode a) = some a) : (l.map encode).mapM decode = some l := by
  induction l with
  | nil => rfl
  | cons a rest ih =>
      rw [List.map_cons, List.mapM_cons, h a List.mem_cons_self, ih fun b hb => h b (List.mem_cons_of_mem _ hb)]
      rfl

/-! ### Decoding -/

/-- What stands for a field has finite numbers. -/
def FiniteField (field : Option Json) : Prop :=
  ∀ j ∈ field, j.Finite

/-- The documents right below a document. -/
def parts : Json → List Json
  | array items => items
  | object members => members.map Prod.snd
  | _ => []

/-- What stands for a field of a structure is a part of its document. -/
theorem mem_parts_of_fields? {j : Json} {names : List (List String)} {fields : List (Option Json)}
    (h : j.fields? names = some fields) {part : Json} (hpart : some part ∈ fields) : part ∈ j.parts := by
  cases j with
  | object members =>
      obtain ⟨names, -, hfield⟩ := exists_of_mem_mapM h hpart
      have hnamed : part ∈ named names members := by
        unfold field? at hfield
        split at hfield
        · cases hfield
        · next heq =>
            cases hfield
            rw [heq]
            exact List.mem_cons_self
        · cases hfield
      obtain ⟨m, hm, rfl⟩ := List.mem_map.1 hnamed
      exact List.mem_map_of_mem (List.mem_of_mem_filter hm)
  | array items =>
      obtain ⟨-, h⟩ := Option.ite_none_right_eq_some.1 h
      cases h
      rcases List.mem_append.1 hpart with hpart | hpart
      · obtain ⟨item, hitem, heq⟩ := List.mem_map.1 hpart
        cases heq
        exact hitem
      · cases List.eq_of_mem_replicate hpart
  | null | bool | natural | number | string | unreadable => cases h

theorem Finite.of_mem_parts {j part : Json} (hj : j.Finite) (h : part ∈ j.parts) : part.Finite := by
  cases hj with
  | array hitems => exact hitems part h
  | object hmembers =>
      obtain ⟨m, hm, rfl⟩ := List.mem_map.1 h
      exact hmembers m hm
  | null | bool | natural | number | string | unreadable => cases h

/-- The fields of a structure have finite numbers if its document has. -/
theorem Finite.fields {j : Json} (hj : j.Finite) {names : List (List String)} {fields : List (Option Json)}
    (h : j.fields? names = some fields) : ∀ field ∈ fields, FiniteField field := by
  rintro _ hfield part rfl
  exact hj.of_mem_parts (mem_parts_of_fields? h hfield)

/-- What is decoded from documents of finite numbers has a property. -/
def Gives {α : Type} (decode : Json → Option α) (P : α → Prop) : Prop :=
  ∀ j a, j.Finite → decode j = some a → P a

theorem gives_number? : Gives number? fun x => x.isFinite = true := by
  intro j x hj h
  cases hj with
  | natural hn =>
      cases h
      exact Number.isFinite_ofNat hn
  | number hx =>
      cases h
      exact hx
  | null | bool | string | array | object | unreadable => cases h

section

variable {α : Type} {decode : Json → Option α} {P : α → Prop}

theorem Gives.nullable? (hdecode : Gives decode P) : Gives (nullable? decode) fun a? => ∀ a ∈ a?, P a := by
  intro j a? hj h
  unfold Json.nullable? at h
  split at h
  · cases h
    nofun
  · obtain ⟨a, ha, rfl⟩ := Option.map_eq_some_iff.1 h
    rintro _ ⟨⟩
    exact hdecode j a hj ha

theorem Gives.list? (hdecode : Gives decode P) : Gives (list? decode) fun l => ∀ a ∈ l, P a := by
  intro j l hj h
  cases hj with
  | array hitems =>
      intro a ha
      obtain ⟨i, hi, hitem⟩ := exists_of_mem_mapM h ha
      exact hdecode i a (hitems i hi) hitem
  | null | bool | natural | number | string | object | unreadable => cases h

/-- What is decoded from the fields of a structure. -/
theorem gives_of_fields {names : List (List String)} {fromFields : List (Option Json) → Option α}
    (h : ∀ fields a, (∀ field ∈ fields, FiniteField field) → fromFields fields = some a → P a) :
    Gives (fun j => j.fields? names >>= fromFields) P := by
  intro j a hj ha
  obtain ⟨fields, hfields, ha⟩ := Option.bind_eq_some_iff.1 ha
  exact h fields a (hj.fields hfields) ha

theorem Gives.required? (hdecode : Gives decode P) {field : Option Json} (hfield : FiniteField field) {a : α}
    (h : required? decode field = some a) : P a := by
  obtain ⟨j, hj, h⟩ := Option.bind_eq_some_iff.1 h
  exact hdecode j a (hfield j hj) h

theorem Gives.optional? (hdecode : Gives decode P) {field : Option Json} (hfield : FiniteField field)
    {missing a : α} (h : optional? decode missing field = some a) (hmissing : P missing) : P a := by
  cases field with
  | none =>
      cases h
      exact hmissing
  | some j => exact hdecode j a (hfield j rfl) h

end

end Costing.Json
