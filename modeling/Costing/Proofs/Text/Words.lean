import Costing.Proofs.Text.Split
import Costing.Proofs.Text.Trim

/-!
# Text — words

The words of a text are what its blanks separate.

* `words`: the maximal runs of characters that are not blank.
* `wordsFrom_append_blank`: a blank separates the words before it from those after it.
* `IsWord`: a word has a character, and none that is blank.  `isWord_of_mem_wordsFrom`: words are such.
* `flatten_wordsFrom`: the words are all of a text but its blanks.
* `wordsFrom_intercalate`: words with spaces between them are the words of that text.
* `squeeze`: every run of blanks is replaced by one space.  `intercalate_wordsFrom`: the words with spaces between
  them are the trimmed text with its runs of blanks replaced.
* `Leaves`: what runs of blanks leave of a text.  `Leaves.eq_wordsFrom`: these are the words of a trimmed text.
-/

namespace Costing.Text

/-- The maximal runs of characters that are not blank, `word` holding the run being read backwards. -/
def wordsFrom (word : List Char) : List Char → List (List Char)
  | [] => if word.isEmpty then [] else [word.reverse]
  | c :: cs =>
    if isBlank c then
      if word.isEmpty then wordsFrom [] cs else word.reverse :: wordsFrom [] cs
    else wordsFrom (c :: word) cs

/-- The words of a text: what its blanks separate. -/
def words (s : String) : List String :=
  (wordsFrom [] s.toList).map String.ofList

/-- A word has a character, and none that is blank. -/
def IsWord (w : List Char) : Prop :=
  w ≠ [] ∧ ∀ c ∈ w, isBlank c = false

/-! ### What blanks separate -/

variable {word cs rest : List Char} {c : Char}

/-- What is left in front of a blank, or at the end, is a word unless it is empty. -/
theorem wordsFrom_nil (word : List Char) : wordsFrom word [] = if word = [] then [] else [word.reverse] := by
  rw [wordsFrom]
  simp only [List.isEmpty_iff]

theorem wordsFrom_cons_of_isBlank (hc : isBlank c) (word cs : List Char) :
    wordsFrom word (c :: cs) = wordsFrom word [] ++ wordsFrom [] cs := by
  cases word with
  | nil => simp [wordsFrom, hc]
  | cons d word => simp [wordsFrom, hc]

theorem wordsFrom_cons_of_not_isBlank (hc : isBlank c = false) (word cs : List Char) :
    wordsFrom word (c :: cs) = wordsFrom (c :: word) cs := by
  rw [wordsFrom, if_neg (Bool.eq_false_iff.1 hc)]

/-- **A blank separates** the words before it from those after it. -/
theorem wordsFrom_append_blank (hc : isBlank c) (word cs rest : List Char) :
    wordsFrom word (cs ++ c :: rest) = wordsFrom word cs ++ wordsFrom [] rest := by
  induction cs generalizing word with
  | nil => exact wordsFrom_cons_of_isBlank hc word rest
  | cons d cs ih =>
      rw [List.cons_append]
      cases hd : isBlank d with
      | true => rw [wordsFrom_cons_of_isBlank hd, wordsFrom_cons_of_isBlank hd, ih, List.append_assoc]
      | false => rw [wordsFrom_cons_of_not_isBlank hd, wordsFrom_cons_of_not_isBlank hd, ih]

/-- Characters that are not blank continue the word. -/
theorem wordsFrom_of_not_isBlank (hcs : ∀ c ∈ cs, isBlank c = false) (word : List Char) :
    wordsFrom word cs = wordsFrom (cs.reverse ++ word) [] := by
  induction cs generalizing word with
  | nil => rfl
  | cons c cs ih =>
      obtain ⟨hc, hcs⟩ := List.forall_mem_cons.1 hcs
      rw [wordsFrom_cons_of_not_isBlank hc, ih hcs, List.reverse_cons, List.append_assoc, List.singleton_append]

theorem wordsFrom_of_isWord (hcs : IsWord cs) : wordsFrom [] cs = [cs] := by
  rw [wordsFrom_of_not_isBlank hcs.2, wordsFrom_nil, List.append_nil, if_neg (mt List.reverse_eq_nil_iff.1 hcs.1),
    List.reverse_reverse]

theorem wordsFrom_of_isBlank (hcs : ∀ c ∈ cs, isBlank c) : wordsFrom [] cs = [] := by
  induction cs with
  | nil => rfl
  | cons c cs ih =>
      obtain ⟨hc, hcs⟩ := List.forall_mem_cons.1 hcs
      rw [wordsFrom_cons_of_isBlank hc, ih hcs]
      rfl

/-- Blanks at either end belong to no word. -/
theorem wordsFrom_between {before after : List Char} (hbefore : ∀ c ∈ before, isBlank c) (hafter : ∀ c ∈ after, isBlank c)
    (cs : List Char) : wordsFrom [] (before ++ (cs ++ after)) = wordsFrom [] cs := by
  have hend : wordsFrom [] (cs ++ after) = wordsFrom [] cs := by
    cases after with
    | nil => rw [List.append_nil]
    | cons c after =>
        obtain ⟨hc, hafter⟩ := List.forall_mem_cons.1 hafter
        rw [wordsFrom_append_blank hc, wordsFrom_of_isBlank hafter, List.append_nil]
  induction before with
  | nil => exact hend
  | cons c before ih =>
      obtain ⟨hc, hbefore⟩ := List.forall_mem_cons.1 hbefore
      rw [List.cons_append, wordsFrom_cons_of_isBlank hc, ih hbefore]
      rfl

theorem wordsFrom_dropBlank (cs : List Char) : wordsFrom [] (dropBlank cs) = wordsFrom [] cs := by
  have hrun : ∀ c ∈ cs.takeWhile isBlank, isBlank c := fun c hc => List.mem_takeWhile_imp hc
  have hwords := wordsFrom_between hrun (List.forall_mem_nil _) (dropBlank cs)
  rw [List.append_nil, dropBlank, List.takeWhile_append_dropWhile] at hwords
  exact hwords.symm

theorem wordsFrom_trimChars (cs : List Char) : wordsFrom [] (trimChars cs) = wordsFrom [] cs := by
  obtain ⟨before, after, hsplit, hbefore, hafter⟩ := exists_eq_trimChars cs
  have hwords := wordsFrom_between hbefore hafter (trimChars cs)
  rw [← hsplit] at hwords
  exact hwords.symm

/-! ### Words -/

theorem isWord_of_mem_wordsFrom (hword : ∀ c ∈ word, isBlank c = false) {w : List Char} (hw : w ∈ wordsFrom word cs) :
    IsWord w := by
  have hlast {word : List Char} (hword : ∀ c ∈ word, isBlank c = false) (hw : w ∈ wordsFrom word []) : IsWord w := by
    rw [wordsFrom_nil] at hw
    split at hw
    · cases hw
    · next hne =>
        obtain rfl := List.mem_singleton.1 hw
        exact ⟨mt List.reverse_eq_nil_iff.1 hne, fun c hc => hword c (List.mem_reverse.1 hc)⟩
  induction cs generalizing word with
  | nil => exact hlast hword hw
  | cons c cs ih =>
      cases hc : isBlank c with
      | true =>
          rw [wordsFrom_cons_of_isBlank hc] at hw
          rcases List.mem_append.1 hw with hw | hw
          · exact hlast hword hw
          · exact ih (List.forall_mem_nil _) hw
      | false =>
          rw [wordsFrom_cons_of_not_isBlank hc] at hw
          exact ih (List.forall_mem_cons.2 ⟨hc, hword⟩) hw

/-- **The words are all of a text but its blanks.** -/
theorem flatten_wordsFrom (word cs : List Char) :
    (wordsFrom word cs).flatten = word.reverse ++ cs.filter fun c => !isBlank c := by
  have hlast (word : List Char) : (wordsFrom word []).flatten = word.reverse := by
    rw [wordsFrom_nil]
    split
    · next hempty => rw [hempty]; rfl
    · exact List.flatten_singleton
  induction cs generalizing word with
  | nil => rw [hlast, List.filter_nil, List.append_nil]
  | cons c cs ih =>
      cases hc : isBlank c with
      | true =>
          rw [wordsFrom_cons_of_isBlank hc, List.flatten_append, hlast, ih,
            List.filter_cons_of_neg (by rw [hc]; exact Bool.false_ne_true)]
          rfl
      | false =>
          rw [wordsFrom_cons_of_not_isBlank hc, ih, List.filter_cons_of_pos (by rw [hc]; rfl), List.reverse_cons,
            List.append_assoc, List.singleton_append]

/-- **Words with spaces between them** are the words of that text. -/
theorem wordsFrom_intercalate {ws : List (List Char)} (hws : ∀ w ∈ ws, IsWord w) :
    wordsFrom [] ([' '].intercalate ws) = ws := by
  induction ws with
  | nil => rfl
  | cons w ws ih =>
      obtain ⟨hw, hws⟩ := List.forall_mem_cons.1 hws
      cases ws with
      | nil => rw [List.intercalate_singleton, wordsFrom_of_isWord hw]
      | cons w' ws =>
          have hspace : isBlank ' ' := by decide
          rw [List.intercalate_cons_cons, List.append_assoc, List.singleton_append, wordsFrom_append_blank hspace,
            wordsFrom_of_isWord hw, ih hws, List.singleton_append]

/-! ### Runs of blanks -/

/-- The characters with every run of blanks replaced by one space. -/
def squeeze : List Char → List Char
  | [] => []
  | c :: cs => if isBlank c then ' ' :: squeeze (dropBlank cs) else c :: squeeze cs
termination_by cs => cs.length
decreasing_by
  · exact Nat.lt_succ_of_le (List.dropWhile_suffix isBlank).length_le
  · exact Nat.lt_succ_self _

theorem squeeze_append {w : List Char} (hw : ∀ c ∈ w, isBlank c = false) (rest : List Char) :
    squeeze (w ++ rest) = w ++ squeeze rest := by
  induction w with
  | nil => rfl
  | cons c w ih =>
      obtain ⟨hc, hw⟩ := List.forall_mem_cons.1 hw
      rw [List.cons_append, squeeze, if_neg (Bool.eq_false_iff.1 hc), ih hw, List.cons_append]

theorem squeeze_cons_of_isBlank (hc : isBlank c) (cs : List Char) : squeeze (c :: cs) = ' ' :: squeeze (dropBlank cs) := by
  rw [squeeze, if_pos hc]

theorem squeeze_of_not_isBlank {w : List Char} (hw : ∀ c ∈ w, isBlank c = false) : squeeze w = w := by
  have h := squeeze_append hw []
  rwa [List.append_nil, squeeze, List.append_nil] at h

/-- A text with no blank at either end. -/
def Trimmed (cs : List Char) : Prop :=
  (∀ c ∈ cs.head?, isBlank c = false) ∧ ∀ c ∈ cs.getLast?, isBlank c = false

namespace Trimmed

theorem ne_nil_of_blank (h : Trimmed cs) {w : List Char} (hcs : cs = w ++ c :: rest) (hc : isBlank c) : w ≠ [] := by
  rintro rfl
  subst hcs
  exact absurd (hc.symm.trans (h.1 c rfl)) nofun

/-- What follows a run of blanks is not empty, and no blank is at either end of it. -/
theorem after_blank (h : Trimmed cs) {w : List Char} (hcs : cs = w ++ c :: rest) (hc : isBlank c) :
    dropBlank rest ≠ [] ∧ Trimmed (dropBlank rest) := by
  subst hcs
  have hrun : rest.takeWhile isBlank ++ dropBlank rest = rest := List.takeWhile_append_dropWhile
  refine ⟨fun hnil => ?_, fun d hd => ends_dropWhile hd, fun d hd => h.2 d ?_⟩
  · have hblank : ∀ d ∈ c :: rest, isBlank d := List.forall_mem_cons.2 ⟨hc, List.dropWhile_eq_nil_iff.1 hnil⟩
    have hend := List.getLast?_eq_some_getLast (List.cons_ne_nil c rest)
    have hnot := h.2 _ (by rw [List.getLast?_append, hend]; rfl)
    exact absurd ((hblank _ (List.getLast_mem _)).symm.trans hnot) nofun
  · rw [← hrun, ← List.cons_append, ← List.append_assoc, List.getLast?_append, Option.mem_def.1 hd]
    rfl

/-- Such a text is empty, a word, or a word before a run of blanks and another such text. -/
theorem eq_nil_or_isWord_or (h : Trimmed cs) : cs = [] ∨ IsWord cs ∨
    ∃ w c rest, cs = w ++ c :: rest ∧ IsWord w ∧ isBlank c ∧ dropBlank rest ≠ [] ∧ Trimmed (dropBlank rest) := by
  have hword : ∀ c ∈ cs.takeWhile (!isBlank ·), isBlank c = false := fun c hc => by
    simpa using List.mem_takeWhile_imp hc
  have hsplit : cs = cs.takeWhile (!isBlank ·) ++ cs.dropWhile (!isBlank ·) := List.takeWhile_append_dropWhile.symm
  cases hrest : cs.dropWhile (!isBlank ·) with
  | nil =>
      rw [hrest, List.append_nil] at hsplit
      rw [← hsplit] at hword
      rcases eq_or_ne cs [] with hnil | hne
      · exact .inl hnil
      · exact .inr (.inl ⟨hne, hword⟩)
  | cons c rest =>
      have hc : isBlank c := by
        have hnext : c ∈ (cs.dropWhile (!isBlank ·)).head? := by
          rw [hrest]
          rfl
        simpa using ends_dropWhile hnext
      rw [hrest] at hsplit
      exact .inr (.inr ⟨_, c, rest, hsplit, ⟨h.ne_nil_of_blank hsplit hc, hword⟩, hc, h.after_blank hsplit hc⟩)

theorem wordsFrom_ne_nil (h : Trimmed cs) (hne : cs ≠ []) : wordsFrom [] cs ≠ [] := by
  obtain ⟨c, rest, rfl⟩ := List.exists_cons_of_ne_nil hne
  intro hnil
  have hflatten := flatten_wordsFrom [] (c :: rest)
  rw [hnil, List.filter_cons_of_pos (by rw [h.1 c rfl]; rfl)] at hflatten
  cases hflatten

theorem intercalate_wordsFrom (h : Trimmed cs) : [' '].intercalate (wordsFrom [] cs) = squeeze cs := by
  induction hlength : cs.length using Nat.strongRecOn generalizing cs with
  | ind n ih =>
      rcases h.eq_nil_or_isWord_or with rfl | hword | ⟨w, c, rest, rfl, hword, hc, hne, hrest⟩
      · rw [squeeze]
        rfl
      · rw [wordsFrom_of_isWord hword, List.intercalate_singleton, squeeze_of_not_isBlank hword.2]
      · have hless : (dropBlank rest).length < n := by
          have hle : (dropBlank rest).length ≤ rest.length := (List.dropWhile_suffix isBlank).length_le
          rw [← hlength, List.length_append, List.length_cons]
          omega
        rw [wordsFrom_append_blank hc, wordsFrom_of_isWord hword, ← wordsFrom_dropBlank, List.singleton_append,
          List.intercalate_cons_of_ne_nil (hrest.wordsFrom_ne_nil hne), ih _ hless hrest rfl, squeeze_append hword.2,
          squeeze_cons_of_isBlank hc, List.append_assoc, List.singleton_append]

end Trimmed

theorem trimmed_trimChars (cs : List Char) : Trimmed (trimChars cs) :=
  trimChars_eq_self_iff.1 (trimChars_trimChars cs)

/-- **The words with spaces between them** are the trimmed text with every run of blanks replaced by one space. -/
theorem intercalate_wordsFrom (cs : List Char) : [' '].intercalate (wordsFrom [] cs) = squeeze (trimChars cs) := by
  rw [← wordsFrom_trimChars, (trimmed_trimChars cs).intercalate_wordsFrom]

/-! ### What runs of blanks leave -/

/-- What the runs of some characters leave of others: what is before the first run, what is between each run and the
next, and what is after the last. -/
inductive Leaves (blank : Char → Bool) : List Char → List (List Char) → Prop where
  | last {piece : List Char} (hpiece : ∀ c ∈ piece, blank c = false) : Leaves blank piece [piece]
  | run {piece run rest : List Char} {pieces : List (List Char)} (hpiece : ∀ c ∈ piece, blank c = false)
      (hne : run ≠ []) (hrun : ∀ c ∈ run, blank c) (hrest : ∀ c ∈ rest.head?, blank c = false)
      (hpieces : Leaves blank rest pieces) : Leaves blank (piece ++ (run ++ rest)) (piece :: pieces)

namespace Leaves

variable {pieces : List (List Char)}

theorem ne_nil {blank : Char → Bool} (h : Leaves blank cs pieces) : pieces ≠ [] := by
  cases h <;> exact List.cons_ne_nil _ _

/-- Blanks up to a character that is none are dropped. -/
theorem dropBlank_run {run : List Char} (hrun : ∀ c ∈ run, isBlank c) (hrest : ∀ c ∈ rest.head?, isBlank c = false) :
    dropBlank (run ++ rest) = rest := by
  rw [dropBlank, List.dropWhile_append_of_pos hrun]
  cases rest with
  | nil => rfl
  | cons d rest => exact List.dropWhile_cons_of_neg (Bool.eq_false_iff.1 (hrest d rfl))

/-- **What runs of blanks leave** of a text with no blank at either end are its words. -/
theorem eq_wordsFrom (h : Leaves isBlank cs pieces) (htrimmed : Trimmed cs) (hne : cs ≠ []) :
    pieces = wordsFrom [] cs := by
  induction h with
  | last hpiece => rw [wordsFrom_of_isWord ⟨hne, hpiece⟩]
  | @run piece run rest pieces hpiece hrunne hrun hrest _ ih =>
      obtain ⟨c, run, rfl⟩ := List.exists_cons_of_ne_nil hrunne
      obtain ⟨hc, hrun⟩ := List.forall_mem_cons.1 hrun
      rw [List.cons_append] at htrimmed ⊢
      have hdrop := dropBlank_run hrun hrest
      have hword : IsWord piece := ⟨htrimmed.ne_nil_of_blank rfl hc, hpiece⟩
      obtain ⟨hrestne, hresttrimmed⟩ := htrimmed.after_blank rfl hc
      rw [hdrop] at hrestne hresttrimmed
      rw [wordsFrom_append_blank hc, wordsFrom_of_isWord hword, ← wordsFrom_dropBlank, hdrop,
        ih hresttrimmed hrestne, List.singleton_append]

/-- With spaces between them they are the text with every run of blanks replaced by one. -/
theorem intercalate (h : Leaves isBlank cs pieces) : [' '].intercalate pieces = squeeze cs := by
  induction h with
  | last hpiece => rw [List.intercalate_singleton, squeeze_of_not_isBlank hpiece]
  | @run piece run rest pieces hpiece hrunne hrun hrest hpieces ih =>
      obtain ⟨c, run, rfl⟩ := List.exists_cons_of_ne_nil hrunne
      obtain ⟨hc, hrun⟩ := List.forall_mem_cons.1 hrun
      rw [List.intercalate_cons_of_ne_nil hpieces.ne_nil, ih, squeeze_append hpiece, List.cons_append,
        squeeze_cons_of_isBlank hc, dropBlank_run hrun hrest, List.append_assoc, List.singleton_append]

end Leaves

/-! ### Texts -/

/-- The text with every run of blanks replaced by one space. -/
def squeezed (s : String) : String :=
  String.ofList (squeeze s.toList)

theorem map_toList_words (s : String) : (words s).map String.toList = wordsFrom [] s.toList :=
  map_toList_ofList _

theorem isWord_of_mem_words {s w : String} (hw : w ∈ words s) : IsWord w.toList :=
  isWord_of_mem_wordsFrom (List.forall_mem_nil _) (map_toList_words s ▸ List.mem_map_of_mem hw)

theorem join_words (s : String) : String.join (words s) = String.ofList (s.toList.filter fun c => !isBlank c) := by
  rw [← String.toList_inj, String.toList_join, String.toList_ofList, List.flatMap_def, map_toList_words,
    flatten_wordsFrom]
  rfl

theorem intercalate_words (s : String) : " ".intercalate (words s) = squeezed (trim s) := by
  rw [← String.toList_inj, String.toList_intercalate, map_toList_words, squeezed, toList_trim]
  exact (intercalate_wordsFrom s.toList).trans String.toList_ofList.symm

theorem words_squeezed_trim (s : String) : words (squeezed (trim s)) = words s := by
  have hwords : ∀ w ∈ wordsFrom [] s.toList, IsWord w := fun _ => isWord_of_mem_wordsFrom (List.forall_mem_nil _)
  rw [← intercalate_words, words, String.toList_intercalate, map_toList_words]
  exact congrArg (List.map String.ofList) (wordsFrom_intercalate hwords)

end Costing.Text
