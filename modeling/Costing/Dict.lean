/-!
# Dict

Text keys in ascending order, each with one value.  `Entries` is the bare list, which a recursive
type can hold; `Dict` is a list that is known to be sorted.  Reading back what was put
(`get?_put_self`, `get?_put_of_ne`) needs no order; order leaves one list for each
content.
-/

namespace Costing

/-- Keys with their values. -/
abbrev Entries (α : Type) := List (String × α)

namespace Entries

variable {α : Type}

/-- The value under the first occurrence of a key. -/
def get? (key : String) : Entries α → Option α
  | [] => none
  | (k, v) :: rest => if k = key then some v else get? key rest

/-- Puts a value under a key, in place of an earlier one, before the first larger key. -/
def put (key : String) (value : α) : Entries α → Entries α
  | [] => [(key, value)]
  | (k, v) :: rest =>
    if key < k then (key, value) :: (k, v) :: rest
    else if k = key then (key, value) :: rest
    else (k, v) :: put key value rest

/-- The keys ascend strictly. -/
def Sorted (l : Entries α) : Prop :=
  l.Pairwise fun a b => a.1 < b.1

/-- The entries of a list in order; of two with one key the later counts. -/
def ofList (l : List (String × α)) : Entries α :=
  l.foldl (fun entries (k, v) => put k v entries) []

@[simp] theorem get?_put_self (key : String) (value : α) (l : Entries α) :
    get? key (put key value l) = some value := by
  induction l with
  | nil => simp [put, get?]
  | cons e rest ih =>
    obtain ⟨k, v⟩ := e
    unfold put
    split
    · simp [get?]
    · split
      · simp [get?]
      · next h => simp [get?, h, ih]

theorem get?_put_of_ne {key other : String} (h : key ≠ other) (value : α) (l : Entries α) :
    get? other (put key value l) = get? other l := by
  induction l with
  | nil => simp [put, get?, h]
  | cons e rest ih =>
    obtain ⟨k, v⟩ := e
    unfold put
    split
    · simp [get?, h]
    · split
      · next hk => subst hk; simp [get?, h]
      · simp [get?, ih]

theorem isSome_get? (key : String) (l : Entries α) :
    (get? key l).isSome ↔ key ∈ l.map Prod.fst := by
  induction l with
  | nil => simp [get?]
  | cons e rest ih =>
    obtain ⟨k, v⟩ := e
    by_cases h : k = key
    · simp [get?, h]
    · simp [get?, h, ih, Ne.symm h]

theorem mem_put {key : String} {value : α} {e : String × α} {l : Entries α}
    (h : e ∈ put key value l) : e = (key, value) ∨ e ∈ l := by
  induction l with
  | nil => simpa [put] using h
  | cons d rest ih =>
    obtain ⟨k, v⟩ := d
    unfold put at h
    split at h
    · simpa using h
    · split at h
      · rcases List.mem_cons.1 h with h | h
        · exact .inl h
        · exact .inr (List.mem_cons_of_mem _ h)
      · rcases List.mem_cons.1 h with h | h
        · exact .inr (h ▸ List.mem_cons_self)
        · exact (ih h).imp_right (List.mem_cons_of_mem _)

theorem sorted_put (key : String) (value : α) {l : Entries α} (h : Sorted l) :
    Sorted (put key value l) := by
  induction l with
  | nil => simp [put, Sorted]
  | cons d rest ih =>
    obtain ⟨k, v⟩ := d
    have hrest := List.pairwise_cons.1 h
    unfold put
    split
    · next hlt =>
      refine List.pairwise_cons.2 ⟨fun e he => ?_, h⟩
      rcases List.mem_cons.1 he with rfl | he
      · exact hlt
      · exact String.lt_trans hlt (hrest.1 e he)
    · next hge =>
      split
      · next hk => subst hk; exact List.pairwise_cons.2 hrest
      · next hne =>
        refine List.pairwise_cons.2 ⟨fun e he => ?_, ih hrest.2⟩
        rcases mem_put he with rfl | he
        · refine Decidable.byContradiction fun hlt => hne ?_
          exact String.le_antisymm (String.not_lt.1 hge) (String.not_lt.1 hlt)
        · exact hrest.1 e he

end Entries

/-- Keys in ascending order with one value each. -/
structure Dict (α : Type) where
  entries : Entries α
  sorted : entries.Sorted

namespace Dict

variable {α : Type}

/-- No key. -/
def empty : Dict α := ⟨[], List.Pairwise.nil⟩

instance : Inhabited (Dict α) := ⟨empty⟩

/-- The value under a key. -/
def get? (d : Dict α) (key : String) : Option α :=
  d.entries.get? key

/-- Whether the key has a value. -/
def contains (d : Dict α) (key : String) : Bool :=
  (d.get? key).isSome

/-- Puts a value under a key, in place of an earlier one. -/
def put (d : Dict α) (key : String) (value : α) : Dict α :=
  ⟨d.entries.put key value, Entries.sorted_put key value d.sorted⟩

/-- The number of keys. -/
def size (d : Dict α) : Nat := d.entries.length

/-- The keys in ascending order. -/
def keys (d : Dict α) : List String := d.entries.map Prod.fst

/-- The dictionary of a list of pairs; of two with one key the later counts. -/
def ofList (l : List (String × α)) : Dict α :=
  l.foldl (fun d (k, v) => d.put k v) empty

@[simp] theorem get?_empty (key : String) : (empty : Dict α).get? key = none := rfl

@[simp] theorem get?_put_self (d : Dict α) (key : String) (value : α) :
    (d.put key value).get? key = some value :=
  Entries.get?_put_self key value d.entries

theorem get?_put_of_ne (d : Dict α) {key other : String} (h : key ≠ other) (value : α) :
    (d.put key value).get? other = d.get? other :=
  Entries.get?_put_of_ne h value d.entries

/-- The keys are what reads something. -/
theorem mem_keys (d : Dict α) (key : String) : key ∈ d.keys ↔ (d.get? key).isSome :=
  (Entries.isSome_get? key d.entries).symm

/-- What a key reads after a put. -/
theorem get?_put (d : Dict α) (key other : String) (value : α) :
    (d.put key value).get? other = if key = other then some value else d.get? other := by
  split
  · next h => subst h; exact get?_put_self d key value
  · next h => exact get?_put_of_ne d h value

end Dict

end Costing
