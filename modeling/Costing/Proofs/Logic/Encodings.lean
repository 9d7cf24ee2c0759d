import Costing.Logic.Document
import Costing.Proofs.Json.Native
import Costing.Proofs.Value.Document

/-!
# Logic — its encodings

A list of variables has several encodings, and all of them denote the same logic.

* `Logic.Encodes`: the documents that encode a list, which are the list alone and the objects that hold it;
  `Logic.ofTree?_eq_some_iff`: no others denote logic.
* `Variable.Settled`: a variable is denoted by its own document; `Variable.settled_of_ofJson?` shows it of every
  variable that a document denotes.
* `Calculator.ofJson?_congr`: a calculator depends on its logic only as far as it is decoded.
* `Logic.encodings_agree`: **the encodings agree**, as documents, as texts and as texts inside a calculator, and
  the text of what is decoded is decoded to it again.  How texts are read and documents written is the codec's: it is
  asked that it reads no blank text and, for what is written, that it reads it back.
-/

namespace Costing

/-! ### Fields that may be missing -/

namespace Json

variable {α : Type} {encode : α → Json} {decode : Json → Option α}

/-- A field is left out or stands with what it denotes, which is written as something else than null. -/
theorem optional?_nullable?_map {a? : Option α} (h : ∀ a ∈ a?, encode a ≠ null ∧ decode (encode a) = some a) :
    optional? (nullable? decode) none (a?.map encode) = some a? := by
  cases a? with
  | none => rfl
  | some a =>
      obtain ⟨hnull, hreads⟩ := h a rfl
      show nullable? decode (encode a) = _
      unfold nullable?
      split
      · next heq => exact absurd heq hnull
      · rw [hreads]
        rfl

/-- Null counts as left out, so what is there is decoded from something else. -/
theorem exists_of_optional?_nullable? {field : Option Json} {a? : Option α}
    (h : optional? (nullable? decode) none field = some a?) :
    ∀ a ∈ a?, ∃ j, field = some j ∧ j ≠ null ∧ decode j = some a := by
  cases field with
  | none =>
      cases h
      nofun
  | some j =>
      change nullable? decode j = some a? at h
      unfold nullable? at h
      split at h
      · cases h
        nofun
      · next hnull =>
          obtain ⟨a, ha, rfl⟩ := Option.map_eq_some_iff.1 h
          rintro _ ⟨⟩
          exact ⟨j, rfl, hnull, ha⟩

/-! ### Members in their place -/

section

variable {names : List String} {key : String}

/-- A member counts for no field but its own. -/
theorem field?_of_not_mem (hkey : key ∉ names) (before after : List (String × Json)) (x : Json) :
    field? names (before ++ (key, x) :: after) = field? names (before ++ after) := by
  have hnamed : named names (before ++ (key, x) :: after) = named names (before ++ after) := by
    simp [named, List.filter_append, hkey]
  rw [field?, field?, hnamed]

/-- A member stands for its field, unless another one does too. -/
theorem field?_of_mem (hkey : key ∈ names) (before after : List (String × Json)) (x : Json) :
    field? names (before ++ (key, x) :: after) =
      if named names (before ++ after) = [] then some (some x) else none := by
  have hnamed : named names (before ++ (key, x) :: after) =
      named names before ++ x :: named names after := by
    simp [named, List.filter_append, hkey]
  have hothers : named names (before ++ after) = named names before ++ named names after := by
    simp [named, List.filter_append]
  rw [field?, hnamed, hothers]
  cases named names before with
  | nil => cases named names after <;> rfl
  | cons j rest => cases rest <;> rfl

end

end Json

/-! ### Variables -/

namespace Variable

/-- The document of a variable denotes the variable again. -/
abbrev Settled : Variable → Prop :=
  Json.Settled toJson ofJson?

theorem fields?_toJson (x : Variable) : x.toJson.fields? [["name"], ["formula"], ["value"]] =
    some [some (.string x.name), x.formula.map Json.string, x.value.map Value.toJson] := by
  obtain ⟨name, formula, value⟩ := x
  cases formula <;> cases value <;> rfl

/-- The members of a variable are texts and its value. -/
theorem exists_toJson_eq (x : Variable) : ∃ members, x.toJson = .object members ∧
    ∀ m ∈ members, (∃ s, m.2 = .string s) ∨ ∃ v ∈ x.value, m.2 = v.toJson := by
  refine ⟨_, rfl, fun m hm => ?_⟩
  rcases List.mem_append.1 hm with hm | hm
  · rcases List.mem_append.1 hm with hm | hm
    · rw [List.mem_singleton.1 hm]
      exact .inl ⟨_, rfl⟩
    · obtain ⟨f, -, rfl⟩ := Option.map_eq_some_iff.1 (Option.mem_toList.1 hm)
      exact .inl ⟨f, rfl⟩
  · obtain ⟨v, hv, rfl⟩ := Option.map_eq_some_iff.1 (Option.mem_toList.1 hm)
    exact .inr ⟨v, hv, rfl⟩

/-- A variable is settled if its value is. -/
theorem settled_of_value {x : Variable} (h : ∀ v ∈ x.value, v.toJson ≠ .null ∧ Value.Settled v) : Settled x := by
  obtain ⟨members, hjson, hmembers⟩ := x.exists_toJson_eq
  refine ⟨?_, ?_, ?_⟩
  · have hformula : Json.optional? (Json.nullable? Json.string?) none (x.formula.map Json.string) = some x.formula :=
      Json.optional?_nullable?_map fun f _ => ⟨nofun, rfl⟩
    have hvalue : Json.optional? (Json.nullable? Value.ofJson?) none (x.value.map Value.toJson) = some x.value :=
      Json.optional?_nullable?_map fun v hv => ⟨(h v hv).1, (h v hv).2.reads⟩
    rw [ofJson?, fields?_toJson]
    show (do return {
      name := ← Json.required? Json.string? (some (.string x.name))
      formula := ← Json.optional? (Json.nullable? Json.string?) none (x.formula.map Json.string)
      value := ← Json.optional? (Json.nullable? Value.ofJson?) none (x.value.map Value.toJson) } : Option Variable) = _
    rw [hformula, hvalue]
    rfl
  · rw [hjson]
    refine .object fun m hm => ?_
    obtain ⟨s, hs⟩ | ⟨v, hv, hv'⟩ := hmembers m hm
    · exact hs ▸ .string s
    · exact hv' ▸ (h v hv).2.finite
  · rw [hjson, Json.isReadable, Json.haveReadable_iff]
    intro m hm
    obtain ⟨s, hs⟩ | ⟨v, hv, hv'⟩ := hmembers m hm
    · exact hs ▸ rfl
    · exact hv' ▸ (h v hv).2.readable

/-- **A variable that a document denotes is denoted by its own document.** -/
theorem settled_of_ofJson? {j : Json} (hj : j.Finite) {x : Variable} (h : ofJson? j = some x) : Settled x := by
  obtain ⟨fields, hfields, h⟩ := Option.bind_eq_some_iff.1 h
  have hparts {part : Json} := @Json.mem_parts_of_fields? j _ fields hfields part
  split at h
  · next name formula value =>
      simp only [Option.bind_eq_bind, Option.bind_eq_some_iff] at h
      obtain ⟨name', -, formula', -, value', hvalue, h⟩ := h
      cases h
      refine settled_of_value fun v hv => ?_
      obtain ⟨part, rfl, hnull, hpart⟩ := Json.exists_of_optional?_nullable? hvalue v hv
      have hmem : part ∈ j.parts := hparts (by simp)
      exact ⟨Value.toJson_ne_null hnull hpart, Value.settled_of_ofJson? (hj.of_mem_parts hmem) hpart⟩
  · cases h

end Variable

/-! ### Logic -/

namespace Logic

/-- The documents that encode a list of variables: the list alone, and the objects that hold it under `vars`. -/
inductive Encodes (items : List Json) : Json → Prop where
  | list : Encodes items (.array items)
  | object {members : List (String × Json)} (h : Json.field? ["vars"] members = some (some (.array items))) :
      Encodes items (.object members)

variable {items : List Json} {vars : List Variable} {j : Json} {l : Logic} {text : String}

/-- **What denotes logic** are the encodings of its variables, if all their parts have a value. -/
theorem ofTree?_eq_some_iff : ofTree? j = some l ↔
    j.isReadable = true ∧ ∃ items, Encodes items j ∧ Json.list? Variable.ofJson? (.array items) = some l.vars := by
  constructor
  · intro hdenotes
    obtain ⟨hreadable, h⟩ := Option.ite_none_left_eq_some.1 hdenotes
    clear hdenotes
    refine ⟨by simpa using hreadable, ?_⟩
    split at h
    · next items =>
        obtain ⟨vars, hvars, rfl⟩ := Option.map_eq_some_iff.1 h
        exact ⟨items, .list, hvars⟩
    · next members =>
        obtain ⟨field, hfield, hvars⟩ := Option.bind_eq_some_iff.1 h
        obtain ⟨vars, hrequired, heq⟩ := Option.bind_eq_some_iff.1 hvars
        cases heq
        obtain ⟨list, rfl, hlist⟩ := Option.bind_eq_some_iff.1 hrequired
        unfold Json.list? at hlist
        split at hlist
        · next items => exact ⟨items, .object hfield, hlist⟩
        · cases hlist
    · cases h
  · rintro ⟨hreadable, items, hj, hitems⟩
    cases hj with
    | list =>
        rw [ofTree?, hreadable]
        show (Json.list? Variable.ofJson? (.array items)).map Logic.mk = _
        rw [hitems]
        rfl
    | object hvars =>
        rw [ofTree?, hreadable]
        show (Json.field? ["vars"] _).bind _ = _
        rw [hvars]
        show (Json.list? Variable.ofJson? (.array items)).bind _ = _
        rw [hitems]
        rfl

/-- **The document of logic denotes the logic again.** -/
theorem settled_toJson (hfinite : (Json.array items).Finite)
    (hitems : Json.list? Variable.ofJson? (.array items) = some vars) : Json.Settled toJson ofTree? ⟨vars⟩ := by
  have hlist : Json.Settled _ _ vars := Json.Settled.list fun x hx => by
    obtain ⟨j, hj, hx⟩ := Json.exists_of_mem_mapM hitems hx
    exact Variable.settled_of_ofJson? (hfinite.of_mem_parts hj) hx
  have hreadable : (toJson ⟨vars⟩).isReadable = true :=
    Json.haveReadable_iff.2 (List.forall_mem_singleton.2 hlist.readable)
  exact ⟨ofTree?_eq_some_iff.2 ⟨hreadable, _, .object rfl, hlist.reads⟩,
    .object (List.forall_mem_singleton.2 hlist.finite), hreadable⟩

variable [Json.Codec]

/-- A list or an object is decoded in the same way everywhere. -/
theorem ofJson?_of_ofTree? (h : ofTree? j = some l) : ofJson? j = some l := by
  cases j with
  | string s => cases h
  | null | bool | natural | number | array | object | unreadable => exact h

theorem not_isAllBlank_of_read? (hblank : Json.RefusesBlank) (hread : Json.read? text = some j) :
    Text.isAllBlank text = false := by
  by_contra h
  exact absurd ((hblank text (Bool.not_eq_false _ ▸ h)).symm.trans hread) nofun

/-- The text of a document that denotes logic holds this logic. -/
theorem read_of_ofTree? (hblank : Json.RefusesBlank) (hread : Json.read? text = some j) (h : ofTree? j = some l) :
    read text = .ok l := by
  rw [read, not_isAllBlank_of_read? hblank hread, hread]
  cases j with
  | string s => cases h
  | null | bool | natural | number | array | object | unreadable =>
      rw [if_neg Bool.false_ne_true]
      simp only [h]

/-- **A text in a text holds no logic.** -/
theorem read_string (hblank : Json.RefusesBlank) {inner : String} (hread : Json.read? text = some (.string inner)) :
    read text = .error .string := by
  rw [read, not_isAllBlank_of_read? hblank hread, hread]
  rfl

/-- A text stands for the document that it writes. -/
theorem ofJson?_string (hblank : Json.RefusesBlank) (hread : Json.read? text = some j) (h : ofTree? j = some l) :
    ofJson? (.string text) = some l := by
  rw [ofJson?, read_of_ofTree? hblank hread h]
  rfl

end Logic

/-! ### Calculators -/

namespace Calculator

variable [Json.Codec]

/-- **A calculator depends on its logic only as far as it is decoded.** -/
theorem ofJson?_congr {x y : Json} (h : Logic.ofJson? x = Logic.ofJson? y) {key : String}
    (hkey : key ∈ ["logic", "logicJson"]) (before after : List (String × Json)) :
    ofJson? (.object (before ++ (key, x) :: after)) = ofJson? (.object (before ++ (key, y) :: after)) := by
  have hother {name : String} (hname : name ∉ ["logic", "logicJson"]) : key ∉ [name] := by
    rintro hmem
    exact hname (List.mem_singleton.1 hmem ▸ hkey)
  have hid : key ∉ ["id"] := hother (by decide)
  have hname : key ∉ ["name"] := hother (by decide)
  have hparams : key ∉ ["params"] := hother (by decide)
  unfold ofJson?
  simp only [Json.fields?, List.mapM_cons, List.mapM_nil, Json.field?_of_not_mem hid,
    Json.field?_of_not_mem hname, Json.field?_of_not_mem hparams]
  rw [Json.field?_of_mem hkey, Json.field?_of_mem hkey]
  split
  · simp only [Option.bind_eq_bind, Option.pure_def, Option.bind_assoc, Option.bind_some, Json.optional?, h]
  · simp only [Option.bind_eq_bind, Option.bind_none, Option.bind_fun_none]

theorem ofJson?_array_congr {x y : Json} (h : Logic.ofJson? x = Logic.ofJson? y) (id name params : Json) :
    ofJson? (.array [id, name, params, x]) = ofJson? (.array [id, name, params, y]) := by
  show (do return {
      id := ← Json.required? Json.string? (some id)
      name := ← Json.optional? (Json.nullable? Json.string?) none (some name)
      params := ← Json.optional? (Json.list? Param.ofJson?) [] (some params)
      logic := ← Logic.ofJson? x } : Option Calculator) = _
  rw [h]
  rfl

end Calculator

/-! ### The encodings -/

namespace Logic

/-- **The encodings of a list of variables agree.**  Each document that encodes the list denotes the same logic,
and so does a text of such a document, alone or in its place inside a calculator; a text of a text is refused.
The document of what is decoded is decoded to it again from its text if the codec reads it back. -/
theorem encodings_agree [Json.Codec] (hblank : Json.RefusesBlank) {items : List Json} {vars : List Variable}
    (hfinite : (Json.array items).Finite) (hitems : Json.list? Variable.ofJson? (.array items) = some vars) :
    (∀ j, Encodes items j → j.isReadable = true →
      ofJson? j = some ⟨vars⟩ ∧
      ∀ text, Json.read? text = some j →
        read text = .ok ⟨vars⟩ ∧ ofJson? (.string text) = some ⟨vars⟩ ∧
        (∀ key ∈ ["logic", "logicJson"], ∀ before after,
          Calculator.ofJson? (.object (before ++ (key, .string text) :: after)) =
            Calculator.ofJson? (.object (before ++ (key, j) :: after))) ∧
        ∀ id name params, Calculator.ofJson? (.array [id, name, params, .string text]) =
          Calculator.ofJson? (.array [id, name, params, j])) ∧
    (∀ text inner, Json.read? text = some (.string inner) →
      read text = .error .string ∧ ofJson? (.string text) = none) ∧
    (Json.ReadsBack (toJson ⟨vars⟩) → read (toJson ⟨vars⟩).compact = .ok ⟨vars⟩) := by
  refine ⟨fun j hj hreadable => ?_, fun text inner hread => ?_, fun hback => ?_⟩
  · have htree : ofTree? j = some ⟨vars⟩ := ofTree?_eq_some_iff.2 ⟨hreadable, items, hj, hitems⟩
    have hdecoded := ofJson?_of_ofTree? htree
    refine ⟨hdecoded, fun text hread => ?_⟩
    have hstring := ofJson?_string hblank hread htree
    have hsame : ofJson? (.string text) = ofJson? j := hstring.trans hdecoded.symm
    exact ⟨read_of_ofTree? hblank hread htree, hstring,
      fun key hkey before after => Calculator.ofJson?_congr hsame hkey before after,
      Calculator.ofJson?_array_congr hsame⟩
  · have hrefused := read_string hblank hread
    refine ⟨hrefused, ?_⟩
    rw [ofJson?, hrefused]
    rfl
  · have hsettled := settled_toJson hfinite hitems
    exact read_of_ofTree? hblank (hback hsettled.finite hsettled.readable) hsettled.reads

open Native

/-- A value that looks like a number and a formula, written as short as variables can be. -/
theorem encodings_agree_pair :
    read "[[\"a\",null,\"2\"],[\"b\",\"a * 2\"]]" =
      .ok ⟨[⟨"a", none, some (.string "2")⟩, ⟨"b", some "a * 2", none⟩]⟩ ∧
    read (toJson ⟨[⟨"a", none, some (.string "2")⟩, ⟨"b", some "a * 2", none⟩]⟩).compact =
      .ok ⟨[⟨"a", none, some (.string "2")⟩, ⟨"b", some "a * 2", none⟩]⟩ := by
  have hread : Json.read? "[[\"a\",null,\"2\"],[\"b\",\"a * 2\"]]" =
      some (.array [.array [.string "a", .null, .string "2"], .array [.string "b", .string "a * 2"]]) := by cbv
  have hback : Json.ReadsBack
      (toJson ⟨[⟨"a", none, some (.string "2")⟩, ⟨"b", some "a * 2", none⟩]⟩) := fun _ _ => by cbv
  have h := @encodings_agree _ Json.refusesBlank_native
    [.array [.string "a", .null, .string "2"], .array [.string "b", .string "a * 2"]]
    [⟨"a", none, some (.string "2")⟩, ⟨"b", some "a * 2", none⟩] (Json.readsFinite_native hread) rfl
  exact ⟨((h.1 _ .list rfl).2 _ hread).1, h.2.2 hback⟩

end Logic

end Costing
