import Mathlib.Data.List.DropRight
import Costing.Proofs.Stage.Alias
import Costing.Proofs.Validation.Indices

/-!
# Validation — where an index is found

The searches for indices go through a text from left to right, and what they have found they do not look at again.
An index that stands somewhere in the text is found all the same, whatever is in front of it: the search comes to the
name in front of the index, and nothing that is found before reaches into it.

* `nameBefore`: the longest name that a text ends in.
* `mem_occurrences_named`: a search comes to a name if what it finds before that ends in front of the name.
* `exists_mem_indexUses_bracketed`: **a number in brackets is found**, with the name in front of it.
* `mem_indexUses_dotted`: **a number after a point is found** if a name is in front of the point.
-/

namespace Costing.Validation

open Costing.Formula (isNameStart isNameChar)

/-! ### The name in front -/

/-- The longest name that a text ends in; empty if it ends in none. -/
def nameBefore : List Char → List Char
  | [] => []
  | c :: cs => if isNameStart c && cs.all isNameChar then c :: cs else nameBefore cs

theorem isOwner_cons_iff {c : Char} {cs : List Char} : IsOwner (c :: cs) ↔ isNameStart c && cs.all isNameChar := by
  rw [Bool.and_eq_true, List.all_eq_true, IsOwner, List.forall_mem_cons]
  constructor
  · rintro ⟨⟨-, hcs⟩, hstart⟩
    exact ⟨hstart c rfl, hcs⟩
  · rintro ⟨hstart, hcs⟩
    refine ⟨⟨Formula.isNameChar_of_isNameStart hstart, hcs⟩, ?_⟩
    rintro d ⟨⟩
    exact hstart

theorem nameBefore_of_isOwner {cs : List Char} (h : IsOwner cs) : nameBefore cs = cs := by
  cases cs with
  | nil => rfl
  | cons c cs => exact if_pos (isOwner_cons_iff.1 h)

theorem nameBefore_cons {c : Char} {cs : List Char} (h : ¬ IsOwner (c :: cs)) : nameBefore (c :: cs) = nameBefore cs :=
  if_neg (h ∘ isOwner_cons_iff.2)

theorem isOwner_nameBefore (cs : List Char) : IsOwner (nameBefore cs) := by
  induction cs with
  | nil => exact ⟨List.forall_mem_nil _, nofun⟩
  | cons c cs ih =>
      by_cases h : IsOwner (c :: cs)
      · rwa [nameBefore_of_isOwner h]
      · rwa [nameBefore_cons h]

/-- What begins no name is not looked at. -/
theorem nameBefore_append_of_not_start {cs : List Char} (h : ∀ c ∈ cs, isNameStart c = false) (rest : List Char) :
    nameBefore (cs ++ rest) = nameBefore rest := by
  induction cs with
  | nil => rfl
  | cons c cs ih =>
      obtain ⟨hc, hcs⟩ := List.forall_mem_cons.1 h
      rw [List.cons_append, nameBefore_cons (by simp [isOwner_cons_iff, hc]), ih hcs]

/-- A name does not go on past another character. -/
theorem nameBefore_append_cons {d : Char} (hd : isNameChar d = false) (cs rest : List Char) :
    nameBefore (cs ++ d :: rest) = nameBefore rest := by
  have hnot : ∀ cs, ¬ IsOwner (cs ++ d :: rest) := fun cs h =>
    Bool.noConfusion (hd.symm.trans (h.1 d (List.mem_append_right _ List.mem_cons_self)))
  induction cs with
  | nil => exact nameBefore_cons (hnot [])
  | cons c cs ih => exact (nameBefore_cons (hnot (c :: cs))).trans ih

/-! ### The way of a search -/

section Occurrences

variable {found? : List Char → Option (IndexUse × List Char)} {core tail rest : List Char} {use : IndexUse}

/-- **A search comes to the name in front of `tail`**, and to what it finds there: what it finds before that ends in
front of the same name. -/
theorem mem_occurrences_named (hfound : found? (nameBefore core ++ tail) = some (use, rest))
    (hrest : rest.length < tail.length)
    (hother : ∀ cs other after, cs <:+ core → ¬ IsOwner cs → found? (cs ++ tail) = some (other, after) →
      ∃ front ds, cs = front ++ ds ∧ front ≠ [] ∧ nameBefore ds = nameBefore cs ∧ after = ds ++ tail) :
    use ∈ occurrences found? (core ++ tail) := by
  -- at every place that the search stops at on the way, the name is in front of `tail`
  suffices h : ∀ n cs, cs.length = n → cs <:+ core → nameBefore cs = nameBefore core →
      use ∈ occurrences found? (cs ++ tail) from h _ core rfl (List.suffix_refl _) rfl
  intro n
  induction n using Nat.strongRecOn with
  | ind n ih =>
  intro cs hn hcs hname
  by_cases howner : IsOwner cs
  · rw [← hname, nameBefore_of_isOwner howner] at hfound
    obtain ⟨c, ds, hds⟩ : ∃ c ds, cs ++ tail = c :: ds :=
      List.exists_cons_of_ne_nil fun hnil => by simp [(List.append_eq_nil_iff.1 hnil).2] at hrest
    have hle : rest.length ≤ ds.length := by
      have hlength := congrArg List.length hds
      simp only [List.length_append, List.length_cons] at hlength
      omega
    rw [hds] at hfound ⊢
    rw [occurrences_cons_of_some hfound hle]
    exact List.mem_cons_self
  · cases cs with
    | nil => exact absurd ⟨List.forall_mem_nil _, nofun⟩ howner
    | cons c cs =>
        rw [List.cons_append]
        cases hstep : found? (c :: (cs ++ tail)) with
        | none =>
            rw [occurrences_cons_of_none hstep]
            exact ih _ (hn ▸ Nat.lt_succ_self _) cs rfl ((List.suffix_cons c cs).trans hcs)
              ((nameBefore_cons howner).symm.trans hname)
        | some found =>
            obtain ⟨other, after⟩ := found
            obtain ⟨front, ds, hsplit, hfront, hds, rfl⟩ := hother _ _ _ hcs howner hstep
            have hlength := congrArg List.length hsplit
            rw [List.length_append, List.length_cons] at hlength
            have hpos := List.length_pos_of_ne_nil hfront
            rw [occurrences_cons_of_some hstep (by simp; omega)]
            refine List.mem_cons_of_mem _ (ih ds.length (by simp at hn; omega) ds rfl ?_ (hds.trans hname))
            exact (hsplit ▸ List.suffix_append front ds).trans hcs

end Occurrences

/-! ### Texts taken apart in two ways -/

section Split

variable {α : Type} {x : α} {as bs cs ds : List α}

/-- What does not hold `x` ends before `x` does. -/
theorem exists_of_append_cons_eq (hx : x ∉ cs) (h : as ++ x :: bs = cs ++ ds) :
    ∃ es, as = cs ++ es ∧ ds = es ++ x :: bs := by
  rcases List.append_eq_append_iff.1 h with ⟨es, hcs, hbs⟩ | hsplit
  · cases es with
    | nil => exact ⟨[], by simpa using hcs.symm, by simpa using hbs.symm⟩
    | cons e es =>
        obtain ⟨rfl, -⟩ := List.cons.inj hbs
        exact absurd (hcs ▸ List.mem_append_right _ List.mem_cons_self) hx
  · exact hsplit

/-- What does not hold `x` starts after `x` does. -/
theorem exists_of_append_eq_cons (hx : x ∉ bs) (h : as ++ bs = cs ++ x :: ds) :
    ∃ es, as = cs ++ x :: es ∧ ds = es ++ bs := by
  rcases List.append_eq_append_iff.1 h with ⟨es, -, hbs⟩ | ⟨es, has, hds⟩
  · exact absurd (hbs ▸ List.mem_append_right _ List.mem_cons_self) hx
  · cases es with
    | nil =>
        rw [List.nil_append] at hds
        exact absurd (hds ▸ List.mem_cons_self) hx
    | cons e es =>
        obtain ⟨rfl, hrest⟩ := List.cons.inj hds
        exact ⟨es, has, hrest⟩

end Split

/-! ### Blanks at the end -/

theorem rdropWhile_append_of_ends {p : Char → Bool} {cs blanks : List Char} (hcs : ∀ c ∈ cs.getLast?, p c = false)
    (hblanks : ∀ c ∈ blanks, p c) : (cs ++ blanks).rdropWhile p = cs := by
  rw [← List.head?_reverse] at hcs
  rw [List.rdropWhile, List.reverse_append,
    Formula.dropWhile_append_of_ends (fun c hc => hblanks c (List.mem_reverse.1 hc)) hcs, List.reverse_reverse]

theorem not_of_mem_getLast?_rdropWhile {p : Char → Bool} (cs : List Char) :
    ∀ c ∈ (cs.rdropWhile p).getLast?, p c = false := by
  intro c hc
  have hne : cs.rdropWhile p ≠ [] := by
    intro hnil
    rw [hnil] at hc
    cases hc
  rw [List.getLast?_eq_getLast_of_ne_nil hne] at hc
  cases hc
  simpa using List.rdropWhile_last_not p cs hne

/-! ### Indices after a point -/

theorem not_isNameStart_of_isDecimalDigit {c : Char} (h : isDecimalDigit c) : isNameStart c = false := by
  unfold isDecimalDigit at h
  split at h
  · exact Formula.not_isNameStart_of_isDigit h
  · rw [Bool.eq_false_iff]
    intro hstart
    have := Formula.isNameStart_bounds hstart
    omega

theorem not_mem_of_isDecimalDigit {digits : List Char} (h : ∀ d ∈ digits, isDecimalDigit d) {c : Char}
    (hc : isDecimalDigit c = false) : c ∉ digits :=
  fun hmem => absurd (hc.symm.trans (h c hmem)) nofun

/-- What is found in front of a name and a point ends before them, since neither a name nor a number holds a
point. -/
theorem exists_of_dottedAt?_append {cs tail after : List Char} {use : IndexUse} (hcs : ¬ IsOwner cs)
    (h : dottedAt? (cs ++ '.' :: tail) = some (use, after)) :
    ∃ front ds, cs = front ++ ds ∧ front ≠ [] ∧ nameBefore ds = nameBefore cs ∧ after = ds ++ '.' :: tail := by
  obtain ⟨htext, howner, hne, hdigits⟩ := of_dottedAt? h
  have hpoint : '.' ∉ use.owner := fun hmem => absurd (howner.1 _ hmem) (by decide)
  obtain ⟨es, hes, htail⟩ := exists_of_append_cons_eq hpoint htext
  cases es with
  | nil =>
      rw [List.append_nil] at hes
      exact absurd (hes ▸ howner) hcs
  | cons e es =>
      obtain ⟨rfl, hrest⟩ := List.cons.inj htail
      obtain ⟨ds, rfl, rfl⟩ := exists_of_append_cons_eq (not_mem_of_isDecimalDigit hdigits rfl) hrest.symm
      refine ⟨use.owner ++ '.' :: use.digits, ds, by simpa using hes, by simp, ?_, rfl⟩
      rw [hes, nameBefore_append_cons (by decide),
        nameBefore_append_of_not_start fun d hd => not_isNameStart_of_isDecimalDigit (hdigits d hd)]

/-- **A number after a point is found** if a name is in front of the point and the number is not part of a longer
name. -/
theorem mem_indexUses_dotted {text : String} {before digits rest : List Char}
    (htext : text.toList = before ++ '.' :: (digits ++ rest)) (hne : digits ≠ []) (hdigits : ∀ d ∈ digits, d.isDigit)
    (hrest : ∀ c ∈ rest.head?, c = '.' ∨ c = '[') (howner : nameBefore before ≠ []) :
    ⟨nameBefore before, digits, true⟩ ∈ indexUses text := by
  have hdecimal : ∀ d ∈ digits, isDecimalDigit d := fun d hd => isDecimalDigit_of_isDigit (hdigits d hd)
  have hend : ∀ c ∈ rest.head?, isDecimalDigit c = false ∧ Text.isWordChar c = false := by
    intro c hc
    rcases hrest c hc with rfl | rfl <;> exact ⟨rfl, rfl⟩
  have hfound := dottedAt?_append (isOwner_nameBefore before) howner hne hdecimal hend
  rw [indexUses, htext, List.mem_append]
  exact .inr (mem_occurrences_named hfound (by simp) fun _ _ _ _ => exists_of_dottedAt?_append)

/-! ### Indices in brackets -/

/-- A bracket is no blank and no digit. -/
theorem not_mem_of_isBlank {blanks : List Char} (h : ∀ c ∈ blanks, Text.isBlank c) {c : Char}
    (hc : Text.isBlank c = false) : c ∉ blanks :=
  fun hmem => absurd (hc.symm.trans (h c hmem)) nofun

/-- The number that digits write is theirs alone, if blanks after them are taken for digits. -/
theorem readNat?_of_append {digits blanks : List Char} (hblanks : ∀ c ∈ blanks, Text.isBlank c) {n : Nat}
    (h : Number.readNat? (digits ++ blanks) = some n) : Number.readNat? digits = some n := by
  cases blanks with
  | nil => rwa [List.append_nil] at h
  | cons c blanks =>
      obtain ⟨-, hdigits, -⟩ := StageAlias.readNat?_eq_some_iff.1 h
      have hdigit := hdigits c (List.mem_append_right _ List.mem_cons_self)
      have hnot := Formula.not_isBlank_of_isNameChar (Formula.isNameChar_of_isDigit hdigit)
      exact absurd (hnot.symm.trans (hblanks c List.mem_cons_self)) nofun

/-- What is found in front of a name, blanks and a bracket ends before them, since nothing in it but its end is a
bracket. -/
theorem exists_of_bracketedAt?_append {cs blanks tail after : List Char} {use : IndexUse} (hcs : ¬ IsOwner cs)
    (hlast : ∀ c ∈ cs.getLast?, Text.isBlank c = false) (hblanks : ∀ c ∈ blanks, Text.isBlank c)
    (h : bracketedAt? (cs ++ (blanks ++ '[' :: tail)) = some (use, after)) :
    ∃ front ds, cs = front ++ ds ∧ front ≠ [] ∧ nameBefore ds = nameBefore cs ∧
      after = ds ++ (blanks ++ '[' :: tail) := by
  obtain ⟨⟨blanks', pad, pad', htext, hblanks', hpad, hpad'⟩, howner, -, hdigits⟩ := of_bracketedAt? h
  have hfront : '[' ∉ use.owner ++ blanks' := by
    rw [List.mem_append]
    rintro (hmem | hmem)
    · exact absurd (howner.1 _ hmem) (by decide)
    · exact not_mem_of_isBlank hblanks' rfl hmem
  have hinner : '[' ∉ pad ++ (use.digits ++ (pad' ++ [']'])) := by
    simp only [List.mem_append, List.mem_singleton]
    rintro (hmem | hmem | hmem | hmem)
    · exact not_mem_of_isBlank hpad rfl hmem
    · exact not_mem_of_isDecimalDigit hdigits rfl hmem
    · exact not_mem_of_isBlank hpad' rfl hmem
    · cases hmem
  have htext' : cs ++ blanks ++ '[' :: tail =
      use.owner ++ blanks' ++ '[' :: (pad ++ (use.digits ++ (pad' ++ [']'])) ++ after) := by
    simpa using htext
  obtain ⟨es, hes, htail⟩ := exists_of_append_cons_eq hfront htext'
  cases es with
  | nil =>
      -- the bracket would be the same, and what is in front of it a name
      rw [List.append_nil] at hes
      have hname : ∀ c ∈ use.owner.getLast?, Text.isBlank c = false := fun c hc =>
        Formula.not_isBlank_of_isNameChar (howner.1 c (List.mem_of_mem_getLast? hc))
      have hsame := congrArg (List.rdropWhile Text.isBlank) hes
      rw [rdropWhile_append_of_ends hlast hblanks, rdropWhile_append_of_ends hname hblanks'] at hsame
      exact absurd (hsame ▸ howner) hcs
  | cons e es =>
      obtain ⟨rfl, hrest⟩ := List.cons.inj htail
      obtain ⟨ds, rfl, rfl⟩ := exists_of_append_cons_eq hinner hrest.symm
      have hes' : cs ++ blanks =
          use.owner ++ blanks' ++ '[' :: (pad ++ (use.digits ++ pad')) ++ ']' :: ds := by
        simpa using hes
      obtain ⟨rest, hsplit, rfl⟩ := exists_of_append_eq_cons (not_mem_of_isBlank hblanks rfl) hes'
      refine ⟨_, rest, hsplit.trans (List.append_cons _ _ _), by simp, ?_, by simp⟩
      rw [hsplit, nameBefore_append_cons (by decide)]

/-- The search comes to a number in brackets, `core` being what is in front of it up to the blanks there. -/
theorem mem_occurrences_bracketed {core blanks pad digits pad' : List Char}
    (hcore : ∀ c ∈ core.getLast?, Text.isBlank c = false) (hblanks : ∀ c ∈ blanks, Text.isBlank c)
    (hpad : ∀ c ∈ pad, Text.isBlank c) (hne : digits ≠ []) (hdigits : ∀ d ∈ digits, d.isDigit)
    (hpad' : ∀ c ∈ pad', Text.isBlank c) (rest : List Char) :
    ⟨nameBefore core, digits ++ pad'.takeWhile isDecimalDigit, false⟩ ∈
      occurrences bracketedAt? (core ++ (blanks ++ '[' :: (pad ++ (digits ++ (pad' ++ ']' :: rest))))) := by
  have hfound := bracketedAt?_append (isOwner_nameBefore core) hblanks hpad hne hdigits hpad' rest
  refine mem_occurrences_named hfound (by simp; omega) fun cs _ _ hsuffix hcs => ?_
  have hlast : ∀ c ∈ cs.getLast?, Text.isBlank c = false := by
    obtain ⟨front, rfl⟩ := hsuffix
    intro c hc
    refine hcore c ?_
    rw [List.getLast?_append, Option.mem_def.1 hc]
    rfl
  exact exists_of_bracketedAt?_append hcs hlast hblanks

/-- **A number in brackets is found**, with the name in front of the bracket and the blanks there.  If the index has
a stage, the digits write its number. -/
theorem exists_mem_indexUses_bracketed {text : String} {before pad digits pad' rest : List Char}
    (htext : text.toList = before ++ '[' :: (pad ++ (digits ++ (pad' ++ ']' :: rest))))
    (hpad : ∀ c ∈ pad, Text.isBlank c) (hne : digits ≠ []) (hdigits : ∀ d ∈ digits, d.isDigit)
    (hpad' : ∀ c ∈ pad', Text.isBlank c) :
    ∃ use ∈ indexUses text, use.owner = nameBefore (before.rdropWhile Text.isBlank) ∧
      ∀ stage, use.stage? = some stage → Number.readNat? digits = some stage := by
  have hstage : ∀ stage, (IndexUse.stage? ⟨nameBefore (before.rdropWhile Text.isBlank),
      digits ++ pad'.takeWhile isDecimalDigit, false⟩) = some stage → Number.readNat? digits = some stage := by
    intro stage h
    have hread := (Option.filter_eq_some_iff.1 h).1
    exact readNat?_of_append (fun c hc => hpad' c ((List.takeWhile_prefix _).subset hc)) hread
  refine ⟨_, ?_, rfl, hstage⟩
  rw [indexUses, htext, List.mem_append]
  left
  -- the blanks in front of the bracket belong to what is looked for
  have hblanks : ∀ c ∈ before.rtakeWhile Text.isBlank, Text.isBlank c := fun c hc => List.mem_rtakeWhile_imp hc
  have hmem := mem_occurrences_bracketed (not_of_mem_getLast?_rdropWhile before) hblanks hpad hne hdigits hpad' rest
  rwa [← List.append_assoc, List.rdropWhile_append_rtakeWhile] at hmem

end Costing.Validation
