import Costing.Proofs.Validation.Literals
import Costing.Proofs.Validation.Visibility

/-!
# Validation — forbidden sources in a formula

A formula must not mention a forbidden source, in a string no more than as a name.  The check looks for the word in
the text, before the formula is read, so a literal is searched as it is spelled: a backslash inside the word hides
it, one in front of it does not (`Spelling.Mentions`).

* `hasWordFrom_iff`: a word occurs in a text where it stands on its own.
* `mentionsWord_of_reads`: a source that a formula reads, by name or in a literal, stands in its text.
* `filter_validateFormula`: a report has one error about a source that stands in the text, and no other error of
  that kind.
* `validateFormula_forbidden`: a source that a formula reads is one error of its report, however often it is read,
  and is no unknown name.  No backslash hides it in a literal in which backslashes stand before characters of no name
  only.
-/

namespace Costing

/-! ### One issue of a report -/

namespace Issue

/-- **What is raised again and again** is in the report once. -/
theorem filter_canonical_cons {x : Issue} {rest : List Issue} {p : Issue → Bool} (hx : p x)
    (hrest : ∀ i ∈ rest, p i → i = x) : (canonical (x :: rest)).filter p = [x] := by
  have hfirst : firsts (x :: rest) = x :: firstsFrom [x.key] rest := by
    rw [firsts, firstsFrom, if_neg List.not_mem_nil]
  have hnone : (firstsFrom [x.key] rest).filter p = [] := by
    refine List.filter_eq_nil_iff.2 fun i hi hp => ?_
    have hkey := key_not_mem_of_mem_firstsFrom hi
    rw [hrest i (mem_of_mem_firstsFrom hi) hp] at hkey
    exact hkey List.mem_cons_self
  have hperm := (List.mergeSort_perm (firsts (x :: rest)) fun a b => a.priority ≤ b.priority).filter p
  rw [hfirst, List.filter_cons_of_pos hx, hnone] at hperm
  rw [canonical, hfirst]
  exact List.perm_singleton.1 hperm

end Issue

namespace Validation

open Costing.Formula

/-! ### Words -/

/-- **A word occurs** where it stands on its own. -/
theorem hasWordFrom_iff {word cs : List Char} {before : Option Char} (hword : word ≠ []) :
    hasWordFrom word before cs ↔ ∃ pre post, cs = pre ++ (word ++ post) ∧
      (pre.getLast?.or before).any isNameChar = false ∧ ∀ c ∈ post.head?, isNameChar c = false := by
  constructor
  · intro h
    induction cs generalizing before with
    | nil => cases h
    | cons c cs ih =>
        rw [hasWordFrom, Bool.or_eq_true] at h
        rcases h with h | h
        · split at h
          · next rest hrest =>
              rw [Bool.and_eq_true, Bool.not_eq_true', Bool.not_eq_true'] at h
              refine ⟨[], rest, (List.isPrefixOf?_eq_some_iff_append_eq.1 hrest).symm, h.1, fun d hd => ?_⟩
              rw [Option.mem_def.1 hd] at h
              exact h.2
          · cases h
        · obtain ⟨pre, post, rfl, hpre, hpost⟩ := ih h
          refine ⟨c :: pre, post, rfl, ?_, hpost⟩
          rw [List.getLast?_cons]
          cases hlast : pre.getLast? <;> simpa [hlast] using hpre
  · rintro ⟨pre, post, rfl, hpre, hpost⟩
    exact hasWordFrom_append pre (hasWordFrom_self hword hpre hpost)

/-- What stands around characters does not matter if it goes on no name. -/
theorem hasWordFrom_between {word cs rest : List Char} {c : Char} (hword : word ≠ []) (hc : isNameChar c = false)
    (hrest : ∀ d ∈ rest.head?, isNameChar d = false) (h : hasWordFrom word none cs) :
    hasWordFrom word (some c) (cs ++ rest) := by
  obtain ⟨pre, post, rfl, hpre, hpost⟩ := (hasWordFrom_iff hword).1 h
  refine (hasWordFrom_iff hword).2 ⟨pre, post ++ rest, by simp, ?_, ?_⟩
  · cases hlast : pre.getLast? with
    | none => exact hc
    | some d => simpa [hlast] using hpre
  · cases post with
    | nil => exact hrest
    | cons d post => exact hpost

/-! ### Words of a literal -/

namespace Spelling

variable {s t : Spelling}

/-- A word of the value of a literal with no backslash inside it; one in front of it may be. -/
def Mentions (s : Spelling) (word : String) : Prop :=
  ∃ before here after : Spelling, s = before ++ (here ++ after) ∧ here.map Glyph.char = word.toList ∧
    (∀ g ∈ here.tail, g.escaped = false) ∧ (∀ g ∈ before.getLast?, isNameChar g.char = false) ∧
    ∀ g ∈ after.head?, isNameChar g.char = false

theorem written_append : (s ++ t).written = s.written ++ t.written :=
  List.flatMap_append

theorem written_cons (g : Glyph) : written (g :: s) = g.written ++ s.written :=
  List.flatMap_cons

theorem written_of_plain (h : ∀ g ∈ s, g.escaped = false) : s.written = s.map Glyph.char := by
  induction s with
  | nil => rfl
  | cons g s ih =>
      obtain ⟨hg, hs⟩ := List.forall_mem_cons.1 h
      rw [written_cons, Glyph.written, hg, ih hs]
      rfl

theorem getLast?_written (s : Spelling) : s.written.getLast? = s.getLast?.map Glyph.char := by
  rcases List.eq_nil_or_concat s with rfl | ⟨s, g, rfl⟩
  · rfl
  · rw [List.concat_eq_append, written_append, List.getLast?_concat, written_cons, Glyph.written]
    cases g.escaped <;> simp [written]

/-- What is written goes on no name if its first character goes on none. -/
theorem not_isNameChar_of_mem_head? (h : ∀ g ∈ s.head?, isNameChar g.char = false) :
    ∀ c ∈ s.written.head?, isNameChar c = false := by
  cases s with
  | nil => exact nofun
  | cons g s =>
      have hg := h g rfl
      intro c hc
      rw [written_cons, Glyph.written] at hc
      split at hc <;> cases hc
      · decide
      · exact hg

/-- **A word of a literal** that no backslash divides is one of its spelling. -/
theorem hasWordFrom_written {word : String} (hword : word.toList ≠ []) (h : s.Mentions word) :
    hasWordFrom word.toList none s.written := by
  obtain ⟨before, here, after, rfl, hhere, hplain, hbefore, hafter⟩ := h
  have hafter := not_isNameChar_of_mem_head? hafter
  rw [hasWordFrom_iff hword, ← hhere]
  cases here with
  | nil => exact absurd hhere.symm hword
  | cons g here =>
      rw [written_append, written_append, written_cons, written_of_plain (s := here) hplain, Glyph.written]
      cases g.escaped with
      | true => exact ⟨before.written ++ ['\\'], after.written, by simp, by simp; decide, hafter⟩
      | false =>
          refine ⟨before.written, after.written, by simp, ?_, hafter⟩
          rw [getLast?_written]
          cases hlast : before.getLast? with
          | none => rfl
          | some d => simpa using hbefore d hlast

/-- A word of the value is one that no backslash divides, if backslashes stand before characters of no name only. -/
theorem mentions_of_escaped {word : String} (hword : word.toList ≠ []) (hname : ∀ c ∈ word.toList, isNameChar c)
    (hs : ∀ g ∈ s, g.escaped → isNameChar g.char = false) (h : mentionsWord s.value word) : s.Mentions word := by
  rw [mentionsWord, value, String.toList_ofList] at h
  obtain ⟨pre, post, hvalue, hpre, hpost⟩ := (hasWordFrom_iff hword).1 h
  obtain ⟨before, rest, rfl, rfl, hrest⟩ := List.map_eq_append_iff.1 hvalue
  obtain ⟨here, after, rfl, hhere, rfl⟩ := List.map_eq_append_iff.1 hrest
  refine ⟨before, here, after, rfl, hhere, fun g hg => ?_, fun g hg => ?_, fun g hg => ?_⟩
  · have hmem := List.mem_of_mem_tail hg
    have hchar : isNameChar g.char := hname _ (hhere ▸ List.mem_map_of_mem hmem)
    rw [Bool.eq_false_iff]
    intro hescaped
    exact Bool.noConfusion (hchar.symm.trans (hs g (by simp [hmem]) hescaped))
  · simpa [Option.mem_def.1 hg] using hpre
  · exact hpost _ (by simp [Option.mem_def.1 hg])

end Spelling

/-- A word of a literal is a word of the text. -/
theorem hasWordFrom_of_mem_literalsFrom {word cs : List Char} (hword : word ≠ []) {s : Spelling}
    (hs : s ∈ literalsFrom cs) (h : hasWordFrom word none s.written) (before : Option Char) :
    hasWordFrom word before cs := by
  fun_induction literalsFrom cs generalizing before with
  | case1 | case3 => cases hs
  | case2 c cs hquote t rest hspell _ ih =>
      have hname : isNameChar c = false := by
        rcases hquote with rfl | rfl <;> decide
      have hclosing : ∀ d ∈ (c :: rest).head?, isNameChar d = false := by
        rintro d ⟨⟩
        exact hname
      rw [eq_of_spellQuoted hspell]
      refine hasWordFrom_append [c] ?_
      rcases List.mem_cons.1 hs with rfl | hs
      · exact hasWordFrom_between hword hname hclosing h
      · exact hasWordFrom_append t.written (hasWordFrom_append [c] (ih hs _))
  | case4 c cs _ ih => exact hasWordFrom_append [c] (ih hs _)

/-- **What a formula reads stands in its text**: a name, or a word of a literal that no backslash divides. -/
theorem mentionsWord_of_reads {formula : String} {e : Expr} (h : parseFormula formula = .ok e) {word : String}
    (hword : word.toList ≠ [])
    (hreads : word ∈ e.identifiers ∨ ∃ s ∈ stringLiterals formula, s.Mentions word) : mentionsWord formula word := by
  rcases hreads with hname | ⟨s, hs, hmentions⟩
  · exact mentionsWord_of_mem_mentions h (List.mem_eraseDups.1 hname)
  · exact hasWordFrom_of_mem_literalsFrom hword hs (Spelling.hasWordFrom_written hword hmentions) none

/-! ### The report on a formula -/

/-- No other check of a formula with a tree raises an error about a forbidden source. -/
theorem code_ne_of_mem_inner {s : Subject} {p : Place} {symbols : SymbolTable} {formula : String} {e : Expr}
    {issue : Issue} (h : issue ∈ indexIssues s p.currentStage formula ++
      nameIssues s p symbols (forbiddenIn formula) e ++ typeIssues s (infer symbols e).2) :
    issue.code ≠ .forbiddenSource := by
  rcases List.mem_append.1 h with h | h
  · rcases List.mem_append.1 h with h | h
    · obtain ⟨use, -, hissue⟩ := List.mem_filterMap.1 h
      rcases isFuture_or_of_indexIssue? hissue with hfuture | hcode
      · rw [indexIssue?_of_isFuture hfuture] at hissue
        cases hissue
        exact nofun
      · rw [hcode]
        exact nofun
    · obtain ⟨x, -, hfault⟩ := List.mem_filterMap.1 h
      obtain ⟨f, -, rfl⟩ := Option.map_eq_some_iff.1 hfault
      cases f <;> exact nofun
  · obtain ⟨fault, -, rfl⟩ := List.mem_map.1 h
    cases fault <;> exact nofun

/-- The error about the raw offer list. -/
def rawOffersIssue : Issue :=
  ⟨.error, .global, none, .forbiddenSource, "'selectedOffers' is a forbidden source",
    some "Read the resolved current offer instead of the raw offer list"⟩

/-- **One error about a source that stands in the text**, and no other of its kind. -/
theorem filter_validateFormula {formula : String} {e : Expr} (h : parseFormula formula = .ok e)
    (hmentions : mentionsWord formula "selectedOffers") (symbols : SymbolTable) (currentStage : Nat) :
    (validateFormula formula symbols currentStage).filter (·.code == .forbiddenSource) = [rawOffersIssue] := by
  have hforbidden : forbiddenIssues ⟨.global, none⟩ formula = [rawOffersIssue] := by
    rw [forbiddenIssues, forbiddenIn, forbiddenRoots, List.filter_cons_of_pos hmentions]
    rfl
  rw [validateFormula, checkFormula_of_parse h, hforbidden, List.append_assoc, List.append_assoc]
  refine Issue.filter_canonical_cons rfl fun issue hissue hcode => ?_
  rw [← List.append_assoc] at hissue
  exact absurd (beq_iff_eq.1 hcode) (code_ne_of_mem_inner (p := { currentStage }) hissue)

/-- The fault of a name has that name. -/
theorem name_of_nameFault? {p : Place} {symbols : SymbolTable} {x : String} {f : NameFault}
    (h : p.nameFault? symbols x = some f) : f.name = x := by
  rw [Place.nameFault?] at h
  split at h
  · cases h
  · rcases Option.or_eq_some_iff.1 h with hlater | ⟨-, halias⟩
    · exact (Request.of_laterFault? hlater ⟨.global, none⟩).1
    · rw [Place.aliasFault?] at halias
      split at halias
      · split at halias <;> cases halias
        rfl
      · cases halias
        rfl

/-- **A forbidden source is no unknown name.** -/
theorem not_quotes_of_unknown {formula : String} {e : Expr} (h : parseFormula formula = .ok e)
    (symbols : SymbolTable) (currentStage : Nat) {issue : Issue}
    (hissue : issue ∈ validateFormula formula symbols currentStage) (hcode : issue.code = .unknownIdentifier)
    {root : String} (hroot : root ∈ forbiddenRoots) (hquote : '\'' ∉ root.toList) : ¬ issue.Quotes root := by
  intro hquotes
  have hraised := Issue.mem_of_mem_canonical hissue
  rw [checkFormula_of_parse h] at hraised
  rcases List.mem_append.1 hraised with hraised | htype
  · rcases List.mem_append.1 hraised with houter | hname
    · exact not_quotes_of_mem_outer houter (hcode ▸ by decide) hquotes
    · obtain ⟨x, hx, hforbidden, f, hfault, rfl⟩ := (mem_nameIssues h).1 hname
      have hsame := name_of_nameFault? hfault
      have hnot : '\'' ∉ f.name.toList := hsame ▸ quote_not_mem_of_isName (isName_of_mem_mentions h hx)
      exact hforbidden (hsame ▸ NameFault.eq_of_quotes hnot hquote hquotes ▸ hroot)
  · obtain ⟨fault, hfault, rfl⟩ := List.mem_map.1 htype
    exact bne_iff_ne.1 (List.mem_filter.1 hfault).2 hcode

/-- **A forbidden source is reported once**: if a formula with a tree has the name among its identifiers, or in a
string literal with no backslash inside it, the report has one error about it and calls it no unknown name.  The
literals are those of the tree, as they are spelled; where backslashes stand before characters of no name only, there
is none inside the name. -/
theorem validateFormula_forbidden {formula : String} {e : Expr} (h : parseFormula formula = .ok e) :
    (stringLiterals formula).map Spelling.value = e.strings ∧
    (∀ s ∈ stringLiterals formula, (∀ g ∈ s, g.escaped → isNameChar g.char = false) →
      mentionsWord s.value "selectedOffers" → s.Mentions "selectedOffers") ∧
    ∀ symbols currentStage,
      ("selectedOffers" ∈ e.identifiers ∨ ∃ s ∈ stringLiterals formula, s.Mentions "selectedOffers") →
      (validateFormula formula symbols currentStage).filter (·.code == .forbiddenSource) = [rawOffersIssue] ∧
      ∀ issue ∈ validateFormula formula symbols currentStage, issue.code = .unknownIdentifier →
        ¬ issue.Quotes "selectedOffers" := by
  have hletters : ∀ c ∈ "selectedOffers".toList, isNameChar c := by simp [isNameChar]
  refine ⟨strings_of_parseFormula h, fun s _ => Spelling.mentions_of_escaped (by decide) hletters,
    fun symbols currentStage hreads => ⟨?_, fun issue hissue hcode => ?_⟩⟩
  · exact filter_validateFormula h (mentionsWord_of_reads h (by decide) hreads) symbols currentStage
  · exact not_quotes_of_unknown h symbols currentStage hissue hcode List.mem_cons_self (by decide)

/-- The name twice, in a literal and on its own. -/
def twiceForbidden : String :=
  "'selectedOffers' + selectedOffers"

theorem parseFormula_twiceForbidden : parseFormula twiceForbidden =
    .ok (.binary .add (.literal (.string "selectedOffers")) (.identifier "selectedOffers")) := by
  have hscan : Token.scan twiceForbidden = .ok [⟨.string, "selectedOffers", 0⟩, ⟨.operator, "+", 17⟩,
      ⟨.identifier, "selectedOffers", 19⟩] := by decide +kernel
  rw [parseFormula, hscan]
  with_unfolding_all rfl

/-- In the sample there is one error, and it is not about an unknown name. -/
theorem validateFormula_twiceForbidden :
    (validateFormula twiceForbidden .empty 0).filter (·.code == .forbiddenSource) = [rawOffersIssue] ∧
    ∀ issue ∈ validateFormula twiceForbidden .empty 0, issue.code = .unknownIdentifier →
      ¬ issue.Quotes "selectedOffers" :=
  (validateFormula_forbidden parseFormula_twiceForbidden).2.2 .empty 0 (.inl (by decide))

/-- A literal with a backslash inside the name. -/
def dividedForbidden : String :=
  "'selected\\Offers'"

/-- The value of the literal is the name, and there is no error at all. -/
theorem validateFormula_dividedForbidden :
    parseFormula dividedForbidden = .ok (.literal (.string "selectedOffers")) ∧
    mentionsWord "selectedOffers" "selectedOffers" ∧ validateFormula dividedForbidden .empty 0 = [] := by
  have hscan : Token.scan dividedForbidden = .ok [⟨.string, "selectedOffers", 0⟩] := by decide +kernel
  refine ⟨?_, by decide +kernel, by decide +kernel⟩
  rw [parseFormula, hscan]
  with_unfolding_all rfl

end Validation

end Costing
