import Costing.Proofs.Validation.StagePaths
import Costing.Proofs.Validation.Visibility

/-!
# Validation — names of stages

Which formulas a report objects to for reading a result of a stage to come.  The report keeps one issue of those
with one message, so it matters that no other message about a variable is that of a stage to come.

* `Request.code_of_hasStageForm`: what starts with a quote and ends with a digit is about a stage to come.
* `Request.exists_fault_of_future`: what is about a stage to come and quotes a name is the fault of that name.
* `Request.admitsName_iff`: the aliases that a report lets through are those of stages up to the current one.
-/

namespace Costing.Validation

open Costing.Formula

/-! ### Issues of variables -/

/-- A message that starts with a quote and ends with a number: that of a name of a stage to come. -/
def HasStageForm (issue : Issue) : Prop :=
  issue.message.toList.head? = some '\'' ∧ issue.message.toList.getLast?.any Char.isDigit

theorem hasStageForm_future (s : Subject) (name : String) (stage currentStage : Nat) :
    HasStageForm ((NameFault.futureStage name stage currentStage).issue s) := by
  have hne : Nat.toDigits 10 currentStage ≠ [] := Nat.toDigits_ne_nil
  have hdigit : ((Nat.toDigits 10 currentStage).getLast hne).isDigit :=
    Number.isDigit_of_mem_toDigits (List.getLast_mem hne)
  refine ⟨by simp [NameFault.issue, Subject.error], ?_⟩
  rw [NameFault.issue, Subject.error]
  dsimp only
  rw [String.toList_append, Nat.toString_eq_repr (n := currentStage), Nat.toList_repr,
    List.getLast?_append_of_ne_nil _ hne,
    List.getLast?_eq_some_getLast hne]
  exact hdigit

/-- A text that starts, and not with a quote. -/
def StartsPlain (s : String) : Prop :=
  s.toList.head?.any (· ≠ '\'')

instance (s : String) : Decidable (StartsPlain s) :=
  inferInstanceAs (Decidable (_ = true))

theorem StartsPlain.append {s : String} (h : StartsPlain s) (t : String) : StartsPlain (s ++ t) := by
  unfold StartsPlain at *
  rw [String.toList_append, List.head?_append]
  cases hhead : s.toList.head? with
  | none => rw [hhead] at h; cases h
  | some c => rwa [hhead] at h

theorem StartsPlain.not_hasStageForm {issue : Issue} (h : StartsPlain issue.message) :
    ¬ HasStageForm issue := by
  rintro ⟨hhead, -⟩
  rw [StartsPlain, hhead] at h
  exact absurd h (by decide)

theorem startsPlain_name (f : Builtin) : StartsPlain f.name := by
  cases f <;> decide +kernel

theorem startsPlain_faultMessage (fault : Fault) : StartsPlain fault.message := by
  cases fault <;> repeat (first | decide | apply StartsPlain.append)

theorem startsPlain_of_readChecked {s : Subject} {formula : String} {issue : Issue}
    (h : readChecked s formula = .error issue) : StartsPlain issue.message := by
  obtain ⟨message, rfl, rfl | ⟨fault, -, rfl⟩⟩ := of_readChecked_error h
  · exact show StartsPlain "Unbalanced parentheses" by decide
  · exact startsPlain_faultMessage fault

theorem startsPlain_typeMessage (fault : TypeFault) : StartsPlain fault.message := by
  cases fault with
  | argumentCount f given => exact ((((startsPlain_name f).append _).append _).append _).append _
  | _ => repeat (first | decide | apply StartsPlain.append)

/-- Of the messages about a formula, only those about a stage to come have the form. -/
theorem code_of_mem_checkFormula {s : Subject} {p : Place} {symbols : SymbolTable} {formula : String} :
    ∀ issue ∈ (checkFormula s p symbols formula).2, HasStageForm issue → issue.code = .futureStage := by
  apply forall_mem_checkFormula
  case hforbidden =>
    refine List.forall_mem_map.2 fun root _ hform => ?_
    simp [HasStageForm, Subject.error, List.getLast?_cons, List.getLast?_append] at hform
  case hindex =>
    intro use issue h hform
    unfold indexIssue? at h
    split at h
    · split at h <;> cases h
      rfl
    · cases h
      simp [HasStageForm, Subject.error] at hform
  case hread => exact fun issue h hform => absurd hform (startsPlain_of_readChecked h).not_hasStageForm
  case hname =>
    intro f hform
    cases f with
    | futureStage => rfl
    | _ => simp [HasStageForm, NameFault.issue, Subject.error, List.getLast?_cons, List.getLast?_append] at hform
  case htype => exact fun fault hform => absurd hform (startsPlain_typeMessage fault).not_hasStageForm

/-- No message about a variable itself has the form. -/
theorem not_hasStageForm_ownIssues {position : Nat} {earlier : List String} {symbols : SymbolTable}
    {name : String} : ∀ issue ∈ variableNameIssues position name ++ takenNameIssues earlier symbols name,
      ¬ HasStageForm issue := by
  refine List.forall_mem_append.2 ⟨?_, ?_⟩
  · unfold variableNameIssues
    split
    · simp [HasStageForm, Subject.error]
    · split <;> simp [HasStageForm, Subject.error, List.getLast?_cons, List.getLast?_append]
  · unfold takenNameIssues
    dsimp only
    split
    · simp [HasStageForm, Subject.error]
    · split <;> simp [HasStageForm, Subject.warning]

namespace Request

variable {r : Request} {i : Nat} {x : String}

/-- **A message of the form** is about a stage to come. -/
theorem code_of_hasStageForm {issue : Issue} (h : issue ∈ r.checkIssues i) (hform : HasStageForm issue) :
    issue.code = .futureStage := by
  revert issue
  apply forall_mem_checkIssues
  case hown => exact fun _ _ _ _ issue h hform => absurd hform (not_hasStageForm_ownIssues issue h)
  case hempty =>
    refine fun _ _ _ => List.forall_mem_singleton.2 fun hform => ?_
    simp [HasStageForm, Subject.error] at hform
  case hformula => exact fun _ _ _ _ => code_of_mem_checkFormula

theorem mem_nameCodes_of_future {code : IssueCode} (h : code = .futureStage) : code ∈ nameCodes := by
  rw [h]
  decide

/-- What is raised about a stage to come and quotes a name is the fault of that name. -/
theorem exists_fault_of_future {issue : Issue} (h : issue ∈ r.checkIssues i) (hcode : issue.code = .futureStage)
    (hx : '\'' ∉ x.toList) (hquotes : issue.Quotes x) :
    ∃ f s, (r.place i).nameFault? (r.symbolsAt i) x = some f ∧ f.issue s = issue := by
  have hkind := mem_nameCodes_of_future hcode
  obtain ⟨v, hv⟩ := exists_variable h
  have hraised := h
  rw [checkIssues_eq hv] at hraised
  rcases List.mem_append.1 hraised with hown | hraised
  · exact absurd (hcode.symm.trans (of_mem_ownIssues issue hown).2) nofun
  cases hbody : v.body with
  | value y => rw [hbody] at hraised; cases hraised
  | empty =>
      rw [hbody] at hraised
      rw [List.mem_singleton.1 hraised] at hcode
      cases hcode
  | formula text =>
      cases hparse : parseFormula text with
      | ok e =>
          obtain ⟨-, f, hfault, hissue⟩ := exists_of_quotes hv hbody hparse h hkind hx hquotes
          exact ⟨f, _, hfault, hissue⟩
      | error fault =>
          -- a text without a tree has no names
          obtain ⟨message, hissues⟩ := checkFormula_of_error (s := variableSubject (variableName v))
            (p := r.place i) hparse
          rw [hbody, checkBody, hissues] at hraised
          rcases List.mem_append.1 hraised with houter | hsyntax
          · exact absurd hquotes (not_quotes_of_mem_outer houter hkind)
          · rw [List.mem_singleton.1 hsyntax] at hcode
            cases hcode

/-! ### Aliases that a report lets through -/

theorem not_quotes_of_mem_sourceIssues {currentStage : Nat} {name path : String} {issue : Issue}
    (h : issue ∈ sourceIssues currentStage name path) (hcode : issue.code = .futureStage) : ¬ issue.Quotes x := by
  unfold sourceIssues at h
  dsimp only at h
  split at h
  · rw [List.mem_singleton.1 h] at hcode
    cases hcode
  · exact not_quotes_of_mem_outer h (mem_nameCodes_of_future hcode)

/-- A report without an error about a stage to come that quotes a name. -/
def AdmitsName (r : Request) (x : String) : Prop :=
  ∀ issue ∈ (validateLogic r).issues, issue.Quotes x → issue.code ≠ .futureStage

variable {n : Nat}

/-- An alias that nothing else is named is visible everywhere if its stage is not past the current one. -/
theorem visible_iff_le (hnames : StageAlias.Names x n) (hinput : ¬ r.IsInput x) (hvars : x ∉ r.names) :
    r.Visible i x ↔ n ≤ r.currentStage := by
  constructor
  · rintro (h | ⟨j, -, hj⟩ | ⟨-, stage, hle, hstage⟩)
    · exact absurd h hinput
    · exact absurd (List.mem_of_getElem? hj) hvars
    · rwa [hnames.unique hstage]
  · intro hle
    exact .inr (.inr ⟨fun ⟨j, _, hj⟩ => hvars (List.mem_of_getElem? hj), n, hle, hnames⟩)

/-- Such an alias of a stage past the current one is refused for that. -/
theorem code_of_refused {code : IssueCode} (hn : n < Segment.indexBound) (hnames : StageAlias.Names x n)
    (hvars : x ∉ r.names) (h : r.Refused i x code) : code = .futureStage := by
  have hdeclared : ¬ r.DeclaredFrom i x := fun ⟨j, _, hj⟩ => hvars (List.mem_of_getElem? hj)
  cases h with
  | forbidden hroot =>
      obtain ⟨digits, key, hchars, -⟩ := hnames
      rw [List.mem_singleton.1 hroot] at hchars
      simp at hchars
  | declared _ h => exact absurd h hdeclared
  | future => rfl
  | unknown _ _ hnone => exact absurd hnames (hnone n hn)

/-- **The aliases that a report lets through** are those of stages up to the current one. -/
theorem admitsName_iff (hcurrent : r.currentStage < Segment.indexBound) {v : Variable} {formula : String}
    {e : Expr} (hv : r.logic.vars[i]? = some v) (hbody : v.body = .formula formula)
    (hparse : parseFormula formula = .ok e) (hx : x ∈ e.identifiers) (hn : n < Segment.indexBound)
    (hnames : StageAlias.Names x n) (hinput : ¬ r.IsInput x) (hvars : x ∉ r.names) :
    r.AdmitsName x ↔ n ≤ r.currentStage := by
  have hmentions : x ∈ e.mentions := List.mem_eraseDups.1 hx
  have hname := isName_of_mem_mentions hparse hmentions
  have hquote := quote_not_mem_of_isName hname
  constructor
  · intro hadmits
    by_contra hlater
    obtain ⟨issue, hissue, -, -, -, hrefused, hquotes⟩ := exists_of_not_visible hcurrent hv hbody hparse hmentions
      (mt (visible_iff_le (i := i) hnames hinput hvars).1 hlater)
    have hcode := code_of_refused hn hnames hvars hrefused
    obtain ⟨f, s, -, rfl⟩ := exists_fault_of_future hissue hcode hquote hquotes
    have hform : HasStageForm (f.issue s) := by
      cases f with
      | futureStage => exact hasStageForm_future s _ _ _
      | _ => cases hcode
    -- what is kept of it has its message, by which it is of its kind
    obtain ⟨kept, hkept, hkey⟩ := exists_mem_issues hissue
    have hmessage : kept.message = (f.issue s).message := congrArg (·.2.2.2) hkey
    have hscope : kept.scope = .var := (congrArg (·.2.1) hkey).trans (scope_of_mem_checkIssues hissue)
    obtain ⟨j, hj⟩ := exists_mem_checkIssues_of_raised (Issue.mem_of_mem_canonical hkept) hscope
    have hkeptForm : HasStageForm kept := by rwa [HasStageForm, hmessage]
    have hkeptQuotes : kept.Quotes x := by rwa [Issue.Quotes, hmessage]
    exact hadmits kept hkept hkeptQuotes (code_of_hasStageForm hj hkeptForm)
  · intro hle issue hissue hquotes hcode
    rcases of_mem_raised (Issue.mem_of_mem_canonical hissue) with h | ⟨j, h⟩ | ⟨-, hresult⟩
    · rcases of_mem_inputIssues issue h with hunrelated | ⟨u, -, hsource⟩
      · exact hunrelated.2.1 hcode
      · exact not_quotes_of_mem_sourceIssues hsource hcode hquotes
    · obtain ⟨f, -, hfault, -⟩ := exists_fault_of_future h hcode hquote hquotes
      have hvisible := (visible_iff_le (i := j) hnames hinput hvars).2 hle
      rw [(nameFault?_eq_none_iff hcurrent (ne_empty_of_isName hname)).2 hvisible] at hfault
      cases hfault
    · exact absurd (hcode.symm.trans hresult) nofun

end Request

end Costing.Validation
