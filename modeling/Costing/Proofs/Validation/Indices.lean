import Mathlib.Data.List.TakeWhile
import Costing.Proofs.Validation.Words
import Costing.Validation.Formula

/-!
# Validation — numeric indices in a text

What the indices that are found in a text look like, and which of them a check objects to.

* `occurrences_append`: characters at which nothing is found are passed over.
* `bracketedAt?_append`, `dottedAt?_append`: an index is found where its text stands, and `of_bracketedAt?`,
  `of_dottedAt?`: nothing but the text of an index is found.
* `isDecimalDigit_of_mem_indexUses`: an index is written with decimal digits.
* `indexIssue?_of_isFuture`, `isFuture_or_of_indexIssue?`: an index of the stages is objected to if its stage
  is past the current one, and any other index is for another reason.
-/

namespace Costing.Validation

open Costing.Formula (isNameStart isNameChar)

/-! ### Occurrences -/

section Occurrences

variable {α : Type} {found? : List Char → Option (α × List Char)}

theorem occurrences_nil : occurrences found? [] = [] := by
  rw [occurrences]

theorem occurrences_cons_of_none {c : Char} {cs : List Char} (h : found? (c :: cs) = none) :
    occurrences found? (c :: cs) = occurrences found? cs := by
  rw [occurrences, h]

theorem occurrences_cons_of_some {c : Char} {cs rest : List Char} {a : α}
    (h : found? (c :: cs) = some (a, rest)) (hrest : rest.length ≤ cs.length) :
    occurrences found? (c :: cs) = a :: occurrences found? rest := by
  rw [occurrences, h]
  exact if_pos hrest

/-- **What occurs** is found somewhere. -/
theorem exists_of_mem_occurrences {a : α} {cs : List Char} (h : a ∈ occurrences found? cs) :
    ∃ ds rest, found? ds = some (a, rest) := by
  induction hn : cs.length using Nat.strongRecOn generalizing cs with
  | ind n ih =>
  cases cs with
  | nil => rw [occurrences_nil] at h; cases h
  | cons c cs =>
      have hlt : cs.length < n := hn ▸ Nat.lt_succ_self _
      cases hfound : found? (c :: cs) with
      | none =>
          rw [occurrences_cons_of_none hfound] at h
          exact ih _ hlt h rfl
      | some taken =>
          obtain ⟨b, rest⟩ := taken
          rw [occurrences, hfound] at h
          dsimp only at h
          split at h
          · next hle =>
              rcases List.mem_cons.1 h with rfl | h
              · exact ⟨_, _, hfound⟩
              · exact ih _ (Nat.lt_of_le_of_lt hle hlt) h rfl
          · exact ih _ hlt h rfl

/-- Characters at which nothing is found are passed over. -/
theorem occurrences_append {rest : List Char} (cs : List Char)
    (h : ∀ ds, ds ≠ [] → ds <:+ cs → found? (ds ++ rest) = none) :
    occurrences found? (cs ++ rest) = occurrences found? rest := by
  induction cs with
  | nil => rfl
  | cons c cs ih =>
      have hnone : found? (c :: (cs ++ rest)) = none := h (c :: cs) nofun (List.suffix_refl _)
      rw [List.cons_append, occurrences_cons_of_none hnone]
      exact ih fun ds hne hds => h ds hne (hds.trans (List.suffix_cons c cs))

end Occurrences

/-! ### The form of an index -/

theorem isDecimalDigit_of_isDigit {c : Char} (h : c.isDigit) : isDecimalDigit c := by
  have := Formula.isDigit_bounds h
  rw [isDecimalDigit, if_pos (by omega)]
  exact h

/-- A name in front, or none. -/
def IsOwner (owner : List Char) : Prop :=
  (∀ c ∈ owner, isNameChar c) ∧ ∀ c ∈ owner.head?, isNameStart c

theorem spanName_append {owner rest : List Char} (howner : IsOwner owner)
    (hrest : ∀ c ∈ rest.head?, isNameChar c = false) : spanName (owner ++ rest) = (owner, rest) := by
  cases owner with
  | nil =>
      rw [spanName, if_neg, List.nil_append]
      cases rest with
      | nil => simp
      | cons c rest =>
          intro hstart
          exact absurd ((hrest c rfl).symm.trans (Formula.isNameChar_of_isNameStart (by simpa using hstart))) nofun
  | cons c cs =>
      have hhead : ((c :: cs ++ rest).head?.any isNameStart) = true := by simpa using howner.2 c rfl
      rw [spanName, if_pos hhead, Formula.takeWhile_append_of_ends howner.1 hrest,
        Formula.dropWhile_append_of_ends howner.1 hrest]

theorem spanName_spec (cs : List Char) : cs = (spanName cs).1 ++ (spanName cs).2 ∧ IsOwner (spanName cs).1 := by
  unfold spanName
  split
  · next hhead =>
      refine ⟨List.takeWhile_append_dropWhile.symm, fun c hc => List.mem_takeWhile_imp hc, fun c hc => ?_⟩
      cases cs with
      | nil => cases hc
      | cons d cs =>
          have hstart : isNameStart d := by simpa using hhead
          rw [List.takeWhile_cons_of_pos (Formula.isNameChar_of_isNameStart hstart)] at hc
          cases hc
          exact hstart
  · exact ⟨rfl, List.forall_mem_nil _, nofun⟩

/-! ### Indices in brackets -/

section Ends

variable {α : Type} {p : α → Bool} {a : α}

theorem takeWhile_append_cons_of_neg (ha : p a = false) (cs rest : List α) :
    (cs ++ a :: rest).takeWhile p = cs.takeWhile p := by
  induction cs with
  | nil => simp [ha]
  | cons c cs ih =>
      rw [List.cons_append, List.takeWhile_cons, List.takeWhile_cons, ih]

theorem dropWhile_append_cons_of_neg (ha : p a = false) (cs rest : List α) :
    (cs ++ a :: rest).dropWhile p = cs.dropWhile p ++ a :: rest := by
  induction cs with
  | nil => simp [ha]
  | cons c cs ih =>
      rw [List.cons_append, List.dropWhile_cons, List.dropWhile_cons, ih]
      split <;> rfl

end Ends

/-- **An index in brackets is found** where it stands, with the name in front of it.  Digits of any script and
blanks come after its own digits, so those that are both would be taken for digits. -/
theorem bracketedAt?_append {owner blanks pad digits pad' : List Char} (howner : IsOwner owner)
    (hblanks : ∀ c ∈ blanks, Text.isBlank c) (hpad : ∀ c ∈ pad, Text.isBlank c) (hne : digits ≠ [])
    (hdigits : ∀ d ∈ digits, d.isDigit) (hpad' : ∀ c ∈ pad', Text.isBlank c) (rest : List Char) :
    bracketedAt? (owner ++ (blanks ++ '[' :: (pad ++ (digits ++ (pad' ++ ']' :: rest))))) =
      some (⟨owner, digits ++ pad'.takeWhile isDecimalDigit, false⟩, rest) := by
  have hopen : ∀ c ∈ ('[' :: (pad ++ (digits ++ (pad' ++ ']' :: rest)))).head?, Text.isBlank c = false := by
    rintro c ⟨⟩
    decide
  have hclose : ∀ c ∈ (']' :: rest).head?, Text.isBlank c = false := by
    rintro c ⟨⟩
    decide
  have hname : ∀ c ∈ (blanks ++ '[' :: (pad ++ (digits ++ (pad' ++ ']' :: rest)))).head?, isNameChar c = false := by
    cases blanks with
    | nil =>
        rintro c ⟨⟩
        decide
    | cons d blanks =>
        rintro c ⟨⟩
        exact Formula.not_isNameChar_of_isBlank (hblanks _ List.mem_cons_self)
  have hnumber : ∀ c ∈ (digits ++ (pad' ++ ']' :: rest)).head?, Text.isBlank c = false := by
    obtain ⟨d, ds, rfl⟩ := List.exists_cons_of_ne_nil hne
    rintro c ⟨⟩
    exact Formula.not_isBlank_of_isNameChar (Formula.isNameChar_of_isDigit (hdigits _ List.mem_cons_self))
  have hdecimal : ∀ d ∈ digits, isDecimalDigit d := fun d hd => isDecimalDigit_of_isDigit (hdigits d hd)
  have hpad'' : ∀ c ∈ pad'.dropWhile isDecimalDigit, Text.isBlank c := fun c hc =>
    hpad' c ((List.dropWhile_suffix _).subset hc)
  have hend : isDecimalDigit ']' = false := by simp [isDecimalDigit]
  simp only [bracketedAt?, spanName_append howner hname, Text.dropBlank,
    Formula.dropWhile_append_of_ends hblanks hopen, Formula.dropWhile_append_of_ends hpad hnumber,
    List.takeWhile_append_of_pos hdecimal, List.dropWhile_append_of_pos hdecimal,
    takeWhile_append_cons_of_neg hend, dropWhile_append_cons_of_neg hend,
    Formula.dropWhile_append_of_ends hpad'' hclose]
  exact if_neg (by simp [hne])

/-- What is found is a name, blanks and what stands in brackets. -/
theorem of_bracketedAt? {cs rest : List Char} {use : IndexUse} (h : bracketedAt? cs = some (use, rest)) :
    (∃ blanks pad pad', cs = use.owner ++ (blanks ++ '[' :: (pad ++ (use.digits ++ (pad' ++ ']' :: rest)))) ∧
      (∀ c ∈ blanks, Text.isBlank c) ∧ (∀ c ∈ pad, Text.isBlank c) ∧ ∀ c ∈ pad', Text.isBlank c) ∧
    IsOwner use.owner ∧ use.digits ≠ [] ∧ ∀ d ∈ use.digits, isDecimalDigit d := by
  unfold bracketedAt? at h
  dsimp only at h
  split at h
  · next inner hopen =>
      split at h
      · next tail hclose =>
          split at h
          · cases h
          · next hne =>
              cases h
              obtain ⟨hcs, howner⟩ := spanName_spec cs
              refine ⟨⟨(spanName cs).2.takeWhile Text.isBlank, inner.takeWhile Text.isBlank,
                ((Text.dropBlank inner).dropWhile isDecimalDigit).takeWhile Text.isBlank, ?_, ?_, ?_, ?_⟩, howner,
                by simpa using hne, fun d hd => List.mem_takeWhile_imp hd⟩
              · rw [← hclose]
                simpa only [Text.dropBlank, List.takeWhile_append_dropWhile, ← hopen] using hcs
              all_goals exact fun c hc => List.mem_takeWhile_imp hc
      · cases h
  · cases h

/-! ### Indices after a point -/

/-- **An index after a point is found** where it stands behind a name, if its number ends where a word does. -/
theorem dottedAt?_append {owner digits rest : List Char} (howner : IsOwner owner) (howner_ne : owner ≠ [])
    (hne : digits ≠ []) (hdigits : ∀ d ∈ digits, isDecimalDigit d)
    (hrest : ∀ c ∈ rest.head?, isDecimalDigit c = false ∧ Text.isWordChar c = false) :
    dottedAt? (owner ++ '.' :: (digits ++ rest)) = some (⟨owner, digits, true⟩, rest) := by
  have hpoint : ∀ c ∈ ('.' :: (digits ++ rest)).head?, isNameChar c = false := by
    rintro c ⟨⟩
    decide
  have hend : ∀ c ∈ rest.head?, isDecimalDigit c = false := fun c hc => (hrest c hc).1
  have hword : rest.head?.any Text.isWordChar = false := by
    cases rest with
    | nil => rfl
    | cons c rest => rw [List.head?_cons, Option.any_some, (hrest c rfl).2]
  simp only [dottedAt?, spanName_append howner hpoint, Formula.takeWhile_append_of_ends hdigits hend,
    Formula.dropWhile_append_of_ends hdigits hend, hword]
  simp [howner_ne, hne]

/-- What is found is a name, a point and digits. -/
theorem of_dottedAt? {cs rest : List Char} {use : IndexUse} (h : dottedAt? cs = some (use, rest)) :
    cs = use.owner ++ '.' :: (use.digits ++ rest) ∧ IsOwner use.owner ∧ use.owner ≠ [] ∧
      ∀ d ∈ use.digits, isDecimalDigit d := by
  unfold dottedAt? at h
  dsimp only at h
  split at h
  · next tail hpoint =>
      split at h
      · cases h
      · next hnot =>
          cases h
          obtain ⟨hcs, howner⟩ := spanName_spec cs
          refine ⟨?_, howner, ?_, fun d hd => List.mem_takeWhile_imp hd⟩
          · rw [List.takeWhile_append_dropWhile, ← hpoint]
            exact hcs
          · intro hempty
            have hname : (spanName cs).1.isEmpty = true := List.isEmpty_iff.2 hempty
            exact hnot (by rw [hname, Bool.true_or, Bool.true_or])
  · cases h

/-- **An index is written with decimal digits.** -/
theorem isDecimalDigit_of_mem_indexUses {text : String} {use : IndexUse} (h : use ∈ indexUses text) :
    ∀ d ∈ use.digits, isDecimalDigit d := by
  rcases List.mem_append.1 h with h | h
  · obtain ⟨_, _, hfound⟩ := exists_of_mem_occurrences h
    exact (of_bracketedAt? hfound).2.2.2
  · obtain ⟨_, _, hfound⟩ := exists_of_mem_occurrences h
    exact (of_dottedAt? hfound).2.2.2

/-! ### What a check objects to -/

/-- An index of a stage that is past the current one. -/
def IndexUse.IsFuture (use : IndexUse) (currentStage : Nat) : Prop :=
  use.owner = "stages".toList ∧ ∀ stage, use.stage? = some stage → currentStage < stage

theorem IndexUse.not_any_stage? {use : IndexUse} {currentStage : Nat} :
    ¬ use.stage?.any (· ≤ currentStage) ↔ ∀ stage, use.stage? = some stage → currentStage < stage := by
  cases use.stage? <;> simp

/-- **An index of the stages** is objected to if it is past the current one. -/
theorem indexIssue?_of_isFuture {s : Subject} {currentStage : Nat} {use : IndexUse}
    (h : use.IsFuture currentStage) :
    indexIssue? s currentStage use = some (s.error .futureStage
      (use.shown ++ " is not computed before stage " ++ toString currentStage)) := by
  obtain ⟨howner, hstage⟩ := h
  rw [indexIssue?, if_pos (beq_iff_eq.2 howner), if_neg (IndexUse.not_any_stage?.2 hstage)]

/-- Any other objection is to an index that is none of the stages. -/
theorem isFuture_or_of_indexIssue? {s : Subject} {currentStage : Nat} {use : IndexUse} {issue : Issue}
    (h : indexIssue? s currentStage use = some issue) :
    use.IsFuture currentStage ∨ issue.code = .forbiddenIndex := by
  unfold indexIssue? at h
  split at h
  · next howner =>
      split at h
      · cases h
      · next hstage => exact .inl ⟨beq_iff_eq.1 howner, IndexUse.not_any_stage?.1 hstage⟩
  · cases h
    exact .inr rfl

end Costing.Validation
