import Costing.Proofs.Formula.Scan
import Costing.Proofs.Number.ReadBack
import Costing.Stage.Alias

/-!
# Stage — which names are aliases

`StageAlias.Names name stage` says what the aliases of a stage look like, whatever the size of its number.
`StageAlias.index?_eq_some_iff`: the place that is read off a name is the number in it, below the bound of
indices.  A name has one number (`Names.unique`), and an alias that is written has the number that it is
written with (`names_render`).
-/

namespace Costing.StageAlias

/-- The word `stage`, digits, an underscore and a key: an alias of the stage at the place that the digits
write. -/
def Names (name : String) (stage : Nat) : Prop :=
  ∃ digits key : List Char, name.toList = "stage".toList ++ (digits ++ '_' :: key) ∧
    digits ≠ [] ∧ (∀ d ∈ digits, d.isDigit) ∧ Nat.ofDigitChars 10 digits 0 = stage ∧
    key ≠ [] ∧ ∀ c ∈ key, Formula.isNameChar c

theorem readNat?_eq_some_iff {cs : List Char} {n : Nat} :
    Number.readNat? cs = some n ↔ cs ≠ [] ∧ (∀ c ∈ cs, c.isDigit) ∧ Nat.ofDigitChars 10 cs 0 = n := by
  unfold Number.readNat?
  rw [← Number.ofDigits_eq]
  split
  · next h =>
      simp only [Bool.or_eq_true, List.isEmpty_iff, Bool.not_eq_true', List.all_eq_false] at h
      refine ⟨nofun, fun ⟨hne, hdigits, _⟩ => ?_⟩
      rcases h with h | ⟨c, hc, hdigit⟩
      · exact absurd h hne
      · exact absurd (hdigits c hc) hdigit
  · next h => simp_all

/-- Digits before an underscore are told apart. -/
theorem spanDigits_underscore {digits : List Char} (h : ∀ d ∈ digits, d.isDigit) (key : List Char) :
    Number.spanDigits (digits ++ '_' :: key) = (digits, '_' :: key) := by
  rw [Number.spanDigits_append h]
  simp [Number.spanDigits]

/-- **The place in a name** is the number in it, if that is an index. -/
theorem index?_eq_some_iff {name : String} {stage : Nat} :
    index? name = some stage ↔ Names name stage ∧ stage < Segment.indexBound := by
  rw [index?, Option.bind_eq_some_iff]
  constructor
  · rintro ⟨cs, hcs, h⟩
    rw [List.isPrefixOf?_eq_some_iff_append_eq] at hcs
    simp only [indexFrom?, Number.spanDigits] at h
    split at h
    · next key hrest =>
        split at h
        · cases h
        · next hkey =>
            obtain ⟨hread, hbound⟩ := Option.filter_eq_some_iff.1 h
            obtain ⟨hne, hdigits, hvalue⟩ := readNat?_eq_some_iff.1 hread
            refine ⟨⟨_, key, ?_, hne, hdigits, hvalue, ?_⟩, of_decide_eq_true hbound⟩
            · rw [← hcs, ← hrest, List.takeWhile_append_dropWhile]
            · simpa using hkey
    · cases h
  · rintro ⟨⟨digits, key, hname, hne, hdigits, hvalue, hkey, hchars⟩, hbound⟩
    refine ⟨digits ++ '_' :: key, List.isPrefixOf?_eq_some_iff_append_eq.2 hname.symm, ?_⟩
    have hread := readNat?_eq_some_iff.2 ⟨hne, hdigits, hvalue⟩
    simp only [indexFrom?, spanDigits_underscore hdigits, hread]
    simpa [hkey, hbound] using hchars

/-- A name is an alias of one stage. -/
theorem Names.unique {name : String} {stage stage' : Nat} (h : Names name stage) (h' : Names name stage') :
    stage = stage' := by
  obtain ⟨digits, key, hname, -, hdigits, rfl, -⟩ := h
  obtain ⟨digits', key', hname', -, hdigits', rfl, -⟩ := h'
  have hrest : digits ++ '_' :: key = digits' ++ '_' :: key' :=
    List.append_cancel_left (hname.symm.trans hname')
  have hspan := (spanDigits_underscore hdigits key).symm.trans
    ((congrArg Number.spanDigits hrest).trans (spanDigits_underscore hdigits' key'))
  rw [show digits = digits' from congrArg Prod.fst hspan]

theorem toList_render (index : Nat) (key : String) :
    (render index key).toList = "stage".toList ++ (Nat.toDigits 10 index ++ '_' :: key.toList) := by
  simp [render, Nat.toString_eq_repr, Nat.toList_repr]

/-- An alias that is written names its stage. -/
theorem names_render {index : Nat} {key : String} (hkey : key ≠ "")
    (hchars : ∀ c ∈ key.toList, Formula.isNameChar c) : Names (render index key) index :=
  ⟨Nat.toDigits 10 index, key.toList, toList_render index key, Nat.toDigits_ne_nil,
    fun _ => Number.isDigit_of_mem_toDigits, Nat.ofDigitChars_ten_toDigits,
    fun h => hkey (String.toList_eq_nil_iff.1 h), hchars⟩

/-- Aliases of different stages or keys are written differently: no digit is an underscore, so the first
underscore after the word `stage` ends the number, whatever the key. -/
theorem render_eq_render_iff {index index' : Nat} {key key' : String} :
    render index key = render index' key' ↔ index = index' ∧ key = key' := by
  refine ⟨fun h => ?_, fun ⟨hindex, hkey⟩ => hindex ▸ hkey ▸ rfl⟩
  have hrest := congrArg String.toList h
  rw [toList_render, toList_render] at hrest
  have hspan := congrArg Number.spanDigits (List.append_cancel_left hrest)
  rw [spanDigits_underscore (fun _ => Number.isDigit_of_mem_toDigits),
    spanDigits_underscore (fun _ => Number.isDigit_of_mem_toDigits)] at hspan
  obtain ⟨hdigits, hkey⟩ := Prod.mk.inj hspan
  refine ⟨?_, String.toList_inj.1 (List.cons.inj hkey).2⟩
  rw [← Number.ofDigits_toDigits index, hdigits, Number.ofDigits_toDigits]

end Costing.StageAlias
