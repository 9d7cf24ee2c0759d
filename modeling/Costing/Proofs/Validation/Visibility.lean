import Costing.Proofs.Stage.Alias
import Costing.Proofs.Validation.Indices
import Costing.Proofs.Validation.Report
import Costing.Proofs.Validation.Words

/-!
# Validation — which names a variable can read

A variable sees the inputs, the variables before it and the results of stages up to the current one, unless
a variable at its place or after it has their name (`Request.Visible`).  Reading any other name is an error
of one kind (`Request.Refused`), and the message of the error puts the name in quotes.

* `Issue.Quotes`, `NameFault.eq_of_quotes`: the only name in quotes in such a message is the one read.
* `Request.nameFault?_eq_none_iff`: the names without a fault are the visible ones.
* `Request.exists_of_quotes`: an issue of one of the kinds for names that quotes a name is its fault.
* `Request.checkIssues_names`: checking a variable raises errors about the names that are not visible, of
  the kind that they are refused for, and about no others; and the report keeps them all.
-/

namespace Costing

/-! ### Names in quotes -/

/-- A message that puts a name in quotes. -/
def Issue.Quotes (issue : Issue) (name : String) : Prop :=
  ∃ before after : String, issue.message = before ++ "'" ++ name ++ "'" ++ after

namespace Validation

open Costing.Formula

/-- Two texts with a quote in each part alike before it up to the first quote. -/
theorem append_quote_inj {a b s t : List Char} (ha : '\'' ∉ a) (hb : '\'' ∉ b)
    (h : a ++ '\'' :: s = b ++ '\'' :: t) : a = b ∧ s = t := by
  have hkeep {cs : List Char} (hcs : '\'' ∉ cs) (rest : List Char) :
      (cs ++ '\'' :: rest).takeWhile (· != '\'') = cs := by
    refine takeWhile_append_of_ends (fun c hc => ?_) (by simp)
    exact bne_iff_ne.2 fun heq => hcs (heq ▸ hc)
  have hab : a = b := by rw [← hkeep ha s, h, hkeep hb t]
  subst hab
  exact ⟨rfl, (List.cons.inj (List.append_cancel_left h)).2⟩

/-- A text with two quotes has one name between quotes. -/
theorem eq_of_quoted {a b c d x y : List Char} (ha : '\'' ∉ a) (hx : '\'' ∉ x) (hc : '\'' ∉ c)
    (hy : '\'' ∉ y) (h : a ++ '\'' :: (x ++ '\'' :: c) = b ++ '\'' :: (y ++ '\'' :: d)) : x = y := by
  -- both sides have two quotes, so the second beginning has none either
  have hcount := congrArg (List.count '\'') h
  simp only [List.count_append, List.count_cons_self, List.count_eq_zero_of_not_mem ha,
    List.count_eq_zero_of_not_mem hx, List.count_eq_zero_of_not_mem hc,
    List.count_eq_zero_of_not_mem hy] at hcount
  have hb : '\'' ∉ b := List.count_eq_zero.1 (by omega)
  exact (append_quote_inj hx hy (append_quote_inj ha hb h).2).1

theorem quote_not_mem_toDigits (n : Nat) : '\'' ∉ Nat.toDigits 10 n := fun h =>
  absurd (Number.isDigit_of_mem_toDigits h) (by decide)

theorem ne_empty_of_isName {name : String} (h : IsName name) : name ≠ "" := by
  obtain ⟨c, cs, hname, -⟩ := h
  rintro rfl
  cases hname

theorem quote_not_mem_of_isName {name : String} (h : IsName name) : '\'' ∉ name.toList := by
  obtain ⟨c, cs, hname, hc, hcs, -⟩ := h
  rw [hname, List.mem_cons, not_or]
  refine ⟨?_, fun hmem => absurd (hcs _ hmem) (by decide)⟩
  rintro rfl
  exact absurd hc (by decide)

namespace NameFault

/-- The name that cannot be read. -/
def name : NameFault → String
  | ownName name | declaredLater name | futureStage name _ _ | unknown name => name

/-- A message holds the name in quotes and no other quotes. -/
theorem exists_message (s : Subject) (f : NameFault) :
    ∃ before after : String, '\'' ∉ before.toList ∧ '\'' ∉ after.toList ∧
      (f.issue s).message = before ++ "'" ++ f.name ++ "'" ++ after := by
  cases f with
  | ownName name =>
      exact ⟨"", " references itself", by decide, by decide,
        String.ext (by simp [issue, Subject.error, NameFault.name])⟩
  | declaredLater name =>
      exact ⟨"", " is declared after this variable", by decide, by decide,
        String.ext (by simp [issue, Subject.error, NameFault.name])⟩
  | futureStage name stage currentStage =>
      refine ⟨"", " refers to stage " ++ toString stage ++ ", which is not computed before stage " ++
        toString currentStage, by decide, ?_, String.ext (by simp [issue, Subject.error, NameFault.name])⟩
      simp [quote_not_mem_toDigits]
  | unknown name =>
      exact ⟨"Unknown identifier ", "", by decide, by decide,
        String.ext (by simp [issue, Subject.error, NameFault.name])⟩

theorem quotes (s : Subject) (f : NameFault) : (f.issue s).Quotes f.name := by
  obtain ⟨before, after, -, -, h⟩ := exists_message s f
  exact ⟨before, after, h⟩

/-- The name in quotes is the one that cannot be read. -/
theorem eq_of_quotes {s : Subject} {f : NameFault} {x : String} (hname : '\'' ∉ f.name.toList)
    (hx : '\'' ∉ x.toList) (h : (f.issue s).Quotes x) : f.name = x := by
  obtain ⟨before, after, hbefore, hafter, hmessage⟩ := exists_message s f
  obtain ⟨before', after', hquotes⟩ := h
  have hchars := congrArg String.toList (hmessage.symm.trans hquotes)
  simp only [String.toList_append, List.append_assoc] at hchars
  exact String.ext (eq_of_quoted hbefore hname hafter hx hchars)

theorem isError_issue (s : Subject) (f : NameFault) : (f.issue s).isError := by
  cases f <;> rfl

theorem scope_issue (s : Subject) (f : NameFault) : (f.issue s).scope = s.scope := by
  cases f <;> rfl

theorem ref_issue (s : Subject) (f : NameFault) : (f.issue s).ref = s.ref := by
  cases f <;> rfl

end NameFault

/-- The kinds of errors about names. -/
def nameCodes : List IssueCode := [.forwardReference, .futureStage, .unknownIdentifier]

namespace Request

variable {r : Request} {i : Nat} {x : String}

/-! ### Visible names -/

/-- The name of a declared param or of a wiring. -/
def IsInput (r : Request) (x : String) : Prop :=
  x ∈ r.params.map paramName ∨ x ∈ r.inputs.map wiredName

/-- The name of the variable at a place or of one after it. -/
def DeclaredFrom (r : Request) (i : Nat) (x : String) : Prop :=
  ∃ j ≥ i, r.names[j]? = some x

/-- What the variable at a place can read: an input, a variable before it, or a result of a stage up to the
current one whose alias is no name of a variable from its place on. -/
def Visible (r : Request) (i : Nat) (x : String) : Prop :=
  r.IsInput x ∨ (∃ j < i, r.names[j]? = some x) ∨
    (¬ r.DeclaredFrom i x ∧ ∃ stage ≤ r.currentStage, StageAlias.Names x stage)

/-- What kind of error reading a name is that is not visible. -/
inductive Refused (r : Request) (i : Nat) (x : String) : IssueCode → Prop where
  | forbidden : x ∈ forbiddenRoots → Refused r i x .forbiddenSource
  | declared : x ∉ forbiddenRoots → r.DeclaredFrom i x → Refused r i x .forwardReference
  /-- An alias of a stage past the current one. -/
  | future {stage : Nat} : x ∉ forbiddenRoots → ¬ r.DeclaredFrom i x → StageAlias.Names x stage →
      r.currentStage < stage → stage < Segment.indexBound → Refused r i x .futureStage
  /-- No alias, or one with a number that is no index. -/
  | unknown : x ∉ forbiddenRoots → ¬ r.DeclaredFrom i x →
      (∀ stage < Segment.indexBound, ¬ StageAlias.Names x stage) → Refused r i x .unknownIdentifier

theorem contains_symbolsAt_iff (hx : x ≠ "") :
    (r.symbolsAt i).contains x ↔ r.IsInput x ∨ ∃ j < i, r.names[j]? = some x := by
  rw [contains_symbolsAt hx, IsInput, or_assoc]

/-- The first variable with a name is at a place or after it, if none before it has the name. -/
theorem laterFault?_eq_none_iff (h : ¬ ∃ j < i, r.names[j]? = some x) :
    (r.place i).laterFault? x = none ↔ ¬ r.DeclaredFrom i x := by
  have hnot {j : Nat} (hj : r.names[j]? = some x) : i ≤ j :=
    Nat.le_of_not_lt fun hlt => h ⟨j, hlt, hj⟩
  rw [Place.laterFault?, place]
  -- the check looks at the first variable with the name only
  cases hfirst : r.names.idxOf? x with
  | none =>
      have hmem := List.idxOf?_eq_none_iff.1 hfirst
      refine iff_of_true rfl ?_
      rintro ⟨j, -, hj⟩
      exact hmem (List.mem_of_getElem? hj)
  | some first =>
      obtain ⟨hlt, hget, -⟩ := List.idxOf?_eq_some_iff.1 hfirst
      have hj : r.names[first]? = some x := List.getElem?_eq_some_iff.2 ⟨hlt, hget⟩
      refine iff_of_false ?_ (not_not_intro ⟨first, hnot hj, hj⟩)
      dsimp only
      rcases Nat.eq_or_lt_of_le (hnot hj) with rfl | hlater
      · simp
      · simp [hlater, Nat.ne_of_gt hlater]

/-- A fault of a name that is declared from a place on. -/
theorem of_laterFault? {p : Place} {f : NameFault} (h : p.laterFault? x = some f) (s : Subject) :
    f.name = x ∧ (f.issue s).code = .forwardReference := by
  unfold Place.laterFault? at h
  split at h
  · split at h
    · cases h; exact ⟨rfl, rfl⟩
    · split at h
      · cases h; exact ⟨rfl, rfl⟩
      · cases h
  · cases h

theorem aliasFault?_eq_none_iff (hcurrent : r.currentStage < Segment.indexBound) :
    (r.place i).aliasFault? x = none ↔ ∃ stage ≤ r.currentStage, StageAlias.Names x stage := by
  rw [Place.aliasFault?]
  constructor
  · intro h
    split at h
    · next stage hindex =>
        split at h
        · next hle => exact ⟨stage, hle, (StageAlias.index?_eq_some_iff.1 hindex).1⟩
        · cases h
    · cases h
  · rintro ⟨stage, hle, hnames⟩
    have hindex := StageAlias.index?_eq_some_iff.2 ⟨hnames, Nat.lt_of_le_of_lt hle hcurrent⟩
    rw [hindex]
    exact if_pos hle

/-- **The names without a fault** are the visible ones. -/
theorem nameFault?_eq_none_iff (hcurrent : r.currentStage < Segment.indexBound) (hx : x ≠ "") :
    (r.place i).nameFault? (r.symbolsAt i) x = none ↔ r.Visible i x := by
  rw [Place.nameFault?, Visible, ← or_assoc, ← contains_symbolsAt_iff hx]
  by_cases hsymbol : (r.symbolsAt i).contains x
  · simp [hsymbol]
  · have hbefore : ¬ ∃ j < i, r.names[j]? = some x := fun h =>
      hsymbol ((contains_symbolsAt_iff hx).2 (.inr h))
    rw [if_neg hsymbol, or_iff_right hsymbol, Option.or_eq_none_iff, laterFault?_eq_none_iff hbefore,
      aliasFault?_eq_none_iff hcurrent]

/-- The kind of a fault is the one that the name is refused for. -/
theorem of_nameFault? (hx : x ≠ "") (hforbidden : x ∉ forbiddenRoots) {f : NameFault}
    (h : (r.place i).nameFault? (r.symbolsAt i) x = some f) (s : Subject) :
    f.name = x ∧ r.Refused i x (f.issue s).code := by
  rw [Place.nameFault?] at h
  split at h
  · cases h
  · next hsymbol =>
      have hbefore : ¬ ∃ j < i, r.names[j]? = some x := fun h =>
        hsymbol ((contains_symbolsAt_iff hx).2 (.inr h))
      cases hlater : (r.place i).laterFault? x with
      | some g =>
          rw [hlater, Option.some_or] at h
          cases h
          obtain ⟨hname, hcode⟩ := of_laterFault? hlater s
          have hdeclared : r.DeclaredFrom i x := by
            by_contra hnot
            rw [(laterFault?_eq_none_iff hbefore).2 hnot] at hlater
            cases hlater
          exact ⟨hname, hcode ▸ .declared hforbidden hdeclared⟩
      | none =>
          have hnot := (laterFault?_eq_none_iff hbefore).1 hlater
          rw [hlater, Option.none_or, Place.aliasFault?] at h
          split at h
          · next stage hindex =>
              split at h
              · cases h
              · next hle =>
                  cases h
                  obtain ⟨hnames, hbound⟩ := StageAlias.index?_eq_some_iff.1 hindex
                  exact ⟨rfl, .future hforbidden hnot hnames (Nat.lt_of_not_le hle) hbound⟩
          · next hindex =>
              cases h
              refine ⟨rfl, .unknown hforbidden hnot fun stage hbound hnames => ?_⟩
              have hsome := StageAlias.index?_eq_some_iff.2 ⟨hnames, hbound⟩
              exact absurd (hsome.symm.trans hindex) nofun

end Request

/-! ### What a formula raises -/

/-- The issues of a formula with a tree. -/
theorem checkFormula_of_parse {s : Subject} {p : Place} {symbols : SymbolTable} {formula : String} {e : Expr}
    (h : parseFormula formula = .ok e) :
    (checkFormula s p symbols formula).2 = forbiddenIssues s formula ++ indexIssues s p.currentStage formula ++
      nameIssues s p symbols (forbiddenIn formula) e ++ typeIssues s (infer symbols e).2 := by
  have hread : readChecked s formula = .ok e := by
    rw [readChecked, if_pos (parensBalanced_of_parseFormula h), h]
    rfl
  rw [checkFormula, hread]

/-- The issues of a formula without a tree. -/
theorem checkFormula_of_error {s : Subject} {p : Place} {symbols : SymbolTable} {formula : String}
    {fault : Fault} (h : parseFormula formula = .error fault) :
    ∃ message, (checkFormula s p symbols formula).2 =
      forbiddenIssues s formula ++ indexIssues s p.currentStage formula ++ [s.error .syntaxFault message] := by
  cases hread : readChecked s formula with
  | ok e => exact absurd (h.symm.trans (parseFormula_of_readChecked hread)) nofun
  | error issue =>
      obtain ⟨message, rfl, -⟩ := of_readChecked_error hread
      exact ⟨message, by rw [checkFormula, hread]⟩

/-- The words of a tree that are forbidden are those that the text is searched for. -/
theorem mem_forbiddenIn {formula : String} {e : Expr} (h : parseFormula formula = .ok e) {x : String}
    (hx : x ∈ e.mentions) : x ∈ forbiddenIn formula ↔ x ∈ forbiddenRoots := by
  rw [forbiddenIn, List.mem_filter, and_iff_left (mentionsWord_of_mem_mentions h hx)]

/-- A forbidden word is an error that quotes it. -/
theorem exists_forbiddenIssue (s : Subject) {text x : String} (h : x ∈ forbiddenIn text) :
    ∃ issue ∈ forbiddenIssues s text, issue.isError ∧ issue.scope = s.scope ∧ issue.ref = s.ref ∧
      issue.code = .forbiddenSource ∧ issue.Quotes x :=
  ⟨_, List.mem_map_of_mem h, rfl, rfl, rfl, rfl, "", " is a forbidden source",
    String.ext (by simp [Subject.error])⟩

/-- The issues of names are the faults of those that are not forbidden. -/
theorem mem_nameIssues {s : Subject} {p : Place} {symbols : SymbolTable} {formula : String} {e : Expr}
    (h : parseFormula formula = .ok e) {issue : Issue} :
    issue ∈ nameIssues s p symbols (forbiddenIn formula) e ↔
      ∃ x ∈ e.mentions, x ∉ forbiddenRoots ∧ ∃ f, p.nameFault? symbols x = some f ∧ f.issue s = issue := by
  simp only [nameIssues, Expr.identifiers, List.mem_filterMap, List.mem_filter, List.mem_eraseDups,
    Option.map_eq_some_iff, Bool.not_eq_true', List.contains_eq_mem, decide_eq_false_iff_not]
  constructor
  · rintro ⟨x, ⟨hx, hforbidden⟩, hfault⟩
    exact ⟨x, hx, fun hroot => hforbidden ((mem_forbiddenIn h hx).2 hroot), hfault⟩
  · rintro ⟨x, hx, hforbidden, hfault⟩
    exact ⟨x, ⟨hx, fun hmem => hforbidden ((mem_forbiddenIn h hx).1 hmem)⟩, hfault⟩

/-- The message about an index of the stages has no quotes. -/
theorem quote_not_mem_of_isFuture {formula : String} {use : IndexUse} (huse : use ∈ indexUses formula)
    {currentStage : Nat} (hfuture : use.IsFuture currentStage) :
    '\'' ∉ (use.shown ++ " is not computed before stage " ++ toString currentStage).toList := by
  have hdigits : '\'' ∉ use.digits := fun hmem =>
    absurd (isDecimalDigit_of_mem_indexUses huse _ hmem) (by decide)
  have hshown : '\'' ∉ use.shown.toList := by
    rw [IndexUse.shown, hfuture.1]
    cases use.dotted <;> simp [hdigits]
  simp [hshown, quote_not_mem_toDigits]

/-- No issue of the text of a formula is of one of the kinds for names and quotes one. -/
theorem not_quotes_of_mem_outer {s : Subject} {currentStage : Nat} {text x : String} {issue : Issue}
    (h : issue ∈ forbiddenIssues s text ++ indexIssues s currentStage text) (hcode : issue.code ∈ nameCodes) :
    ¬ issue.Quotes x := by
  rintro ⟨before, after, hmessage⟩
  rcases List.mem_append.1 h with h | h
  · obtain ⟨root, -, rfl⟩ := List.mem_map.1 h
    exact absurd hcode (by simp [nameCodes, Subject.error])
  · obtain ⟨use, huse, hissue⟩ := List.mem_filterMap.1 h
    rcases isFuture_or_of_indexIssue? hissue with hfuture | hother
    · rw [indexIssue?_of_isFuture hfuture] at hissue
      cases hissue
      have hnone := quote_not_mem_of_isFuture huse hfuture
      rw [show use.shown ++ _ ++ _ = before ++ "'" ++ x ++ "'" ++ after from hmessage] at hnone
      exact absurd (by simp) hnone
    · rw [hother] at hcode
      exact absurd hcode (by decide)

namespace Request

variable {r : Request} {i : Nat} {x : String} {v : Variable} {formula : String} {e : Expr}

/-- **What quotes a name** and is of one of the kinds for names is the fault of that name. -/
theorem exists_of_quotes (hv : r.logic.vars[i]? = some v) (hbody : v.body = .formula formula)
    (hparse : parseFormula formula = .ok e) {issue : Issue} (h : issue ∈ r.checkIssues i)
    (hcode : issue.code ∈ nameCodes) (hx : '\'' ∉ x.toList) (hquotes : issue.Quotes x) :
    x ∉ forbiddenRoots ∧ ∃ f, (r.place i).nameFault? (r.symbolsAt i) x = some f ∧
      f.issue (variableSubject (variableName v)) = issue := by
  rw [checkIssues_of_formula hv hbody, checkFormula_of_parse hparse] at h
  rcases List.mem_append.1 h with h | h
  · rw [(of_mem_ownIssues issue h).2] at hcode
    exact absurd hcode (by decide)
  rw [List.append_assoc] at h
  rcases List.mem_append.1 h with houter | h
  · exact absurd hquotes (not_quotes_of_mem_outer houter hcode)
  rcases List.mem_append.1 h with hname | htype
  · obtain ⟨y, hy, hforbidden, f, hfault, rfl⟩ := (mem_nameIssues hparse).1 hname
    have hisName := isName_of_mem_mentions hparse hy
    obtain ⟨hsame, -⟩ :=
      of_nameFault? (ne_empty_of_isName hisName) hforbidden hfault (variableSubject (variableName v))
    have hquote : '\'' ∉ f.name.toList := hsame ▸ quote_not_mem_of_isName hisName
    obtain rfl : y = x := hsame.symm.trans (NameFault.eq_of_quotes hquote hx hquotes)
    exact ⟨hforbidden, f, hfault, rfl⟩
  · -- faults of types in names are left out
    obtain ⟨fault, hfault, rfl⟩ := List.mem_map.1 htype
    have hkept := (List.mem_filter.1 hfault).2
    cases fault with
    | unknownIdentifier => cases hkept
    | _ => exact absurd hcode (by simp [nameCodes, typeIssue, TypeFault.code])

/-- **What is not visible** raises an error of the kind that it is refused for. -/
theorem exists_of_not_visible (hcurrent : r.currentStage < Segment.indexBound)
    (hv : r.logic.vars[i]? = some v) (hbody : v.body = .formula formula)
    (hparse : parseFormula formula = .ok e) (hx : x ∈ e.mentions) (hvisible : ¬ r.Visible i x) :
    ∃ issue ∈ r.checkIssues i, issue.isError ∧ issue.scope = .var ∧ issue.ref = some (variableName v) ∧
      r.Refused i x issue.code ∧ issue.Quotes x := by
  have hempty := ne_empty_of_isName (isName_of_mem_mentions hparse hx)
  have hformula : (checkFormula (variableSubject (variableName v)) (r.place i) (r.symbolsAt i) formula).2 = _ :=
    checkFormula_of_parse hparse
  by_cases hforbidden : x ∈ forbiddenRoots
  · obtain ⟨issue, hissue, herror, hscope, href, hcode, hquotes⟩ :=
      exists_forbiddenIssue (variableSubject (variableName v)) ((mem_forbiddenIn hparse hx).2 hforbidden)
    refine ⟨issue, mem_checkIssues_of_formula hv hbody ?_, herror, hscope, href,
      hcode ▸ .forbidden hforbidden, hquotes⟩
    rw [hformula]
    simp only [List.mem_append, or_assoc]
    exact .inl hissue
  · cases hfault : (r.place i).nameFault? (r.symbolsAt i) x with
    | none => exact absurd ((nameFault?_eq_none_iff hcurrent hempty).1 hfault) hvisible
    | some f =>
        obtain ⟨hname, hrefused⟩ := of_nameFault? hempty hforbidden hfault (variableSubject (variableName v))
        refine ⟨f.issue (variableSubject (variableName v)), mem_checkIssues_of_formula hv hbody ?_,
          f.isError_issue _, f.scope_issue _, f.ref_issue _, hrefused, hname ▸ f.quotes _⟩
        rw [hformula]
        simp only [List.mem_append, or_assoc]
        exact .inr (.inr (.inl ((mem_nameIssues hparse).2 ⟨x, hx, hforbidden, f, hfault, rfl⟩)))

/-- A name that is declared twice is an error at the second place. -/
theorem exists_error_of_repeated {j : Nat} (hj : j < i) (hfirst : r.names[j]? = some x)
    (hsecond : r.names[i]? = some x) (hx : x ≠ "") : ∃ issue ∈ r.checkIssues i, issue.isError := by
  obtain ⟨v, hv, rfl⟩ := Option.map_eq_some_iff.1 (List.getElem?_map ▸ hsecond)
  have hearlier : variableName v ∈ (r.names.take i).reverse := by
    rw [List.mem_reverse, List.mem_iff_getElem?]
    exact ⟨j, by rw [List.getElem?_take_of_lt hj, hfirst]⟩
  refine ⟨(variableSubject (variableName v)).error .definition
    ("Variable '" ++ variableName v ++ "' is declared more than once"), ?_, rfl⟩
  rw [checkIssues, hv]
  refine List.mem_append_left _ (List.mem_append_right _ ?_)
  rw [takenNameIssues, if_pos (by simpa [hx] using hearlier)]
  exact List.mem_singleton_self _

/-- Without errors, a visible name that is declared from a place on is that of an input. -/
theorem isInput_of_declaredFrom (hr : (validateLogic r).hasErrors = false) (hx : x ≠ "")
    (hvisible : r.Visible i x) (hdeclared : r.DeclaredFrom i x) : r.IsInput x := by
  rcases hvisible with hinput | ⟨j, hj, hfirst⟩ | ⟨hnot, -⟩
  · exact hinput
  · obtain ⟨k, hk, hsecond⟩ := hdeclared
    obtain ⟨issue, hissue, herror⟩ := exists_error_of_repeated (Nat.lt_of_lt_of_le hj hk) hfirst hsecond hx
    have hnone := isError_eq_false_of_mem hr hissue
    exact Bool.noConfusion (herror.symm.trans hnone)
  · exact absurd hdeclared hnot

/-- How the names of a tree are checked that is the formula of the variable at a place. -/
structure NamesChecked (r : Request) (i : Nat) (v : Variable) (e : Expr) : Prop where
  /-- What is raised about a name is of the kind that it is refused for, and the name is not visible. -/
  refused : ∀ x ∈ e.identifiers, ∀ issue ∈ r.checkIssues i, issue.code ∈ nameCodes → issue.Quotes x →
    ¬ r.Visible i x ∧ r.Refused i x issue.code
  /-- A name that is not visible raises an error of the kind that it is refused for. -/
  raised : ∀ x ∈ e.identifiers, ¬ r.Visible i x → ∃ issue ∈ r.checkIssues i, issue.isError ∧
    issue.scope = .var ∧ issue.ref = some (variableName v) ∧ r.Refused i x issue.code ∧ issue.Quotes x
  /-- What is raised is in the report, up to its code and hint. -/
  kept : ∀ issue ∈ r.checkIssues i, ∃ kept ∈ (validateLogic r).issues, kept.key = issue.key
  /-- Without errors, every name is visible, and one of a variable from the place on is an input's. -/
  visible : (validateLogic r).hasErrors = false →
    ∀ x ∈ e.identifiers, r.Visible i x ∧ (r.DeclaredFrom i x → r.IsInput x)

/-- **Names are checked exactly**, in every variable whose formula has a tree. -/
theorem checkIssues_names (hcurrent : r.currentStage < Segment.indexBound)
    (hv : r.logic.vars[i]? = some v) (hbody : v.body = .formula formula)
    (hparse : parseFormula formula = .ok e) : r.NamesChecked i v e := by
  have hmentions {x : String} (hx : x ∈ e.identifiers) : x ∈ e.mentions := List.mem_eraseDups.1 hx
  have hraises {x : String} (hx : x ∈ e.identifiers) (hvisible : ¬ r.Visible i x) :=
    exists_of_not_visible hcurrent hv hbody hparse (hmentions hx) hvisible
  constructor
  case refused =>
    intro x hx issue hissue hcode hquotes
    have hname := isName_of_mem_mentions hparse (hmentions hx)
    have hempty := ne_empty_of_isName hname
    obtain ⟨hforbidden, f, hfault, rfl⟩ :=
      exists_of_quotes hv hbody hparse hissue hcode (quote_not_mem_of_isName hname) hquotes
    refine ⟨fun hvisible => ?_, (of_nameFault? hempty hforbidden hfault _).2⟩
    rw [(nameFault?_eq_none_iff hcurrent hempty).2 hvisible] at hfault
    cases hfault
  case raised => exact fun x => hraises
  case kept => exact fun issue => exists_mem_issues
  case visible =>
    intro hr x hx
    have hempty := ne_empty_of_isName (isName_of_mem_mentions hparse (hmentions hx))
    have hvisible : r.Visible i x := by
      by_contra hnot
      obtain ⟨issue, hissue, herror, -⟩ := hraises hx hnot
      exact Bool.noConfusion (herror.symm.trans (isError_eq_false_of_mem hr hissue))
    exact ⟨hvisible, isInput_of_declaredFrom hr hempty hvisible⟩

/-- Logic of the second stage whose first variable reads an input, a result of a stage to come and the
variable after it. -/
def mixedNames : Request where
  params := [⟨"width", some "number"⟩]
  inputs := [⟨"width", "properties.width"⟩]
  logic := ⟨[⟨"area", some "width + stage3_area + total", none⟩, ⟨"total", none, some (.number 1)⟩]⟩
  outputs := none
  currentStage := 1

/-- The tree of the first formula. -/
def mixedTree : Expr :=
  .binary .add (.binary .add (.identifier "width") (.identifier "stage3_area")) (.identifier "total")

theorem parseFormula_mixedNames : parseFormula "width + stage3_area + total" = .ok mixedTree := by
  have hscan : Token.scan "width + stage3_area + total" = .ok
      [⟨.identifier, "width", 0⟩, ⟨.operator, "+", 6⟩, ⟨.identifier, "stage3_area", 8⟩,
        ⟨.operator, "+", 20⟩, ⟨.identifier, "total", 22⟩] := by decide +kernel
  rw [parseFormula, hscan]
  with_unfolding_all rfl

/-- The first variable of the sample. -/
def mixedVariable : Variable := ⟨"area", some "width + stage3_area + total", none⟩

/-- In the sample, the stage to come and the variable after it are errors, and the input is none. -/
theorem checkIssues_mixedNames :
    mixedNames.currentStage < Segment.indexBound ∧ mixedNames.logic.vars[0]? = some mixedVariable ∧
    mixedVariable.body = .formula "width + stage3_area + total" ∧
    parseFormula "width + stage3_area + total" = .ok mixedTree ∧
    (mixedNames.checkIssues 0).map (fun issue => (issue.code, issue.message)) =
      [(.futureStage, "'stage3_area' refers to stage 3, which is not computed before stage 1"),
        (.forwardReference, "'total' is declared after this variable")] ∧
    mixedNames.NamesChecked 0 mixedVariable mixedTree := by
  have hcurrent : mixedNames.currentStage < Segment.indexBound := by decide
  have hraised : (mixedNames.checkIssues 0).map (fun issue => (issue.code, issue.message)) =
      [(.futureStage, "'stage3_area' refers to stage 3, which is not computed before stage 1"),
        (.forwardReference, "'total' is declared after this variable")] := by decide +kernel
  exact ⟨hcurrent, rfl, rfl, parseFormula_mixedNames, hraised,
    checkIssues_names hcurrent rfl rfl parseFormula_mixedNames⟩

/-- A formula that reads a result of a stage whose number is no index. -/
def hugeAlias : Request where
  params := []
  inputs := []
  logic := ⟨[⟨"area", some "stage18446744073709551616_area", none⟩]⟩
  outputs := none
  currentStage := 0

/-- An alias of a stage past the current one is an unknown name if the number of the stage is no index. -/
theorem hugeAlias_unknown :
    hugeAlias.currentStage < 18446744073709551616 ∧
    StageAlias.Names "stage18446744073709551616_area" 18446744073709551616 ∧
    "stage18446744073709551616_area" ∉ forbiddenRoots ∧
    ¬ hugeAlias.DeclaredFrom 0 "stage18446744073709551616_area" ∧
    ¬ hugeAlias.Visible 0 "stage18446744073709551616_area" ∧
    (validateLogic hugeAlias).issues = [(variableSubject "area").error .unknownIdentifier
      "Unknown identifier 'stage18446744073709551616_area'"] := by
  have htext : StageAlias.render 18446744073709551616 "area" = "stage18446744073709551616_area" := by
    decide +kernel
  have hnames : StageAlias.Names "stage18446744073709551616_area" 18446744073709551616 :=
    htext ▸ StageAlias.names_render (by decide) (List.all_eq_true.1 (by decide))
  have hdeclared : ¬ hugeAlias.DeclaredFrom 0 "stage18446744073709551616_area" := by
    rintro ⟨j, -, hj⟩
    have hmem : "stage18446744073709551616_area" ∈ hugeAlias.names := List.mem_of_getElem? hj
    exact absurd hmem (by decide +kernel)
  refine ⟨by decide, hnames, by decide, hdeclared, ?_, by decide +kernel⟩
  rintro (hinput | ⟨j, hj, -⟩ | ⟨-, stage, hstage, hother⟩)
  · rcases hinput with h | h <;> cases h
  · cases hj
  · rw [← hnames.unique hother] at hstage
    exact absurd hstage (by decide)

end Request

end Validation

end Costing
