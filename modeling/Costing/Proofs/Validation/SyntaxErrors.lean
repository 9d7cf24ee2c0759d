import Costing.Proofs.Formula.Malformed
import Costing.Proofs.Validation.StageNames

/-!
# Validation — errors of syntax

The parentheses of a formula are checked before it is read, and either check may refuse its text.  Both together
refuse what cannot be read, and nothing else (`Malformed`): parentheses that do not balance are in no text that
can be read.  A report keeps one issue of those with one message, and no other message is that of an error of
syntax.

* `malformed_of_mem_checkFormula`, `exists_of_malformed`: checking a formula raises an error of syntax if and only
  if it cannot be read.
* `syntaxFault_of_mem_checkFormula`, `Request.syntaxFault_of_mem_checkIssues`: what has the message of such an error
  is one.
* `validate_syntaxFault`: so a report has one exactly where a formula cannot be read, be it the report on the
  formula alone or on the logic that it stands in.
* `validateLogic_blankFormula`: a blank formula is none.
-/

namespace Costing

open Formula (Fault TypeFault Expr SymbolTable parseFormula)

namespace Validation

/-- A text that cannot be read as a formula. -/
def Malformed (formula : String) : Prop :=
  ∃ fault, parseFormula formula = .error fault

variable {s : Subject} {p : Place} {symbols : SymbolTable} {formula : String}

/-! ### How messages start -/

/-- A message starts with a text. -/
def Opens (start message : String) : Prop :=
  start.toList <+: message.toList

instance (start message : String) : Decidable (Opens start message) :=
  inferInstanceAs (Decidable (_ <+: _))

theorem Opens.refl (start : String) : Opens start start :=
  List.prefix_refl _

theorem Opens.append {start message : String} (h : Opens start message) (rest : String) :
    Opens start (message ++ rest) := by
  unfold Opens
  rw [String.toList_append]
  exact h.trans (List.prefix_append _ _)

/-- How the messages of errors of syntax start: of parentheses that do not balance, of a character that no token
starts with, and of a fault in reading. -/
def syntaxOpenings : List String :=
  ["Unbalanced", "Unsupported", "Parse error"]

/-- A message that starts as those of errors of syntax do. -/
def IsSyntaxMessage (message : String) : Prop :=
  ∃ start ∈ syntaxOpenings, Opens start message

/-- A message that starts otherwise is none of an error of syntax. -/
theorem not_isSyntaxMessage {message : String} (start : String)
    (hstart : ∀ other ∈ syntaxOpenings, ¬ other.toList <+: start.toList ∧ ¬ start.toList <+: other.toList)
    (h : Opens start message) : ¬ IsSyntaxMessage message := by
  rintro ⟨other, hother, hopens⟩
  obtain ⟨hlonger, hshorter⟩ := hstart other hother
  exact (List.prefix_or_prefix_of_prefix hopens h).elim hlonger hshorter

theorem isSyntaxMessage_of_readChecked {issue : Issue} (h : readChecked s formula = .error issue) :
    IsSyntaxMessage issue.message := by
  obtain ⟨message, rfl, rfl | ⟨fault, hparse, rfl⟩⟩ := of_readChecked_error h
  · refine ⟨"Unbalanced", by decide, ?_⟩
    exact show Opens "Unbalanced" "Unbalanced parentheses" by decide +kernel
  · have hsyntax := (Formula.parseFormula_failsBySyntax formula).of_error hparse
    cases fault with
    | unsupported found position =>
        have hopens : Opens "Unsupported" "Unsupported character '" := by decide +kernel
        exact ⟨"Unsupported", by decide, ((hopens.append _).append _).append _⟩
    | malformed fault =>
        have hopens : Opens "Parse error" "Parse error: " := by decide +kernel
        exact ⟨"Parse error", by decide, hopens.append _⟩
    | argument | unknownFunction | argumentCount | pattern => cases hsyntax

theorem not_isSyntaxMessage_type (fault : TypeFault) : ¬ IsSyntaxMessage fault.message := by
  cases fault with
  | unknownIdentifier =>
      exact not_isSyntaxMessage "Unknown identifier '" (by decide +kernel) (((Opens.refl _).append _).append _)
  | negated => exact not_isSyntaxMessage "Cannot negate a " (by decide +kernel) ((Opens.refl _).append _)
  | notNumeric =>
      exact not_isSyntaxMessage "Operator '" (by decide +kernel)
        ((((((Opens.refl _).append _).append _).append _).append _).append _)
  | compared =>
      exact not_isSyntaxMessage "Comparing " (by decide +kernel)
        (((((((Opens.refl _).append _).append _).append _).append _).append _).append _)
  | unknownFunction =>
      exact not_isSyntaxMessage "Unknown function '" (by decide +kernel) (((Opens.refl _).append _).append _)
  | argumentCount f given =>
      exact not_isSyntaxMessage f.name (by cases f <;> decide +kernel)
        (((((Opens.refl _).append _).append _).append _).append _)

theorem not_isSyntaxMessage_name (f : NameFault) : ¬ IsSyntaxMessage (f.issue s).message := by
  cases f with
  | ownName | declaredLater =>
      exact not_isSyntaxMessage "'" (by decide +kernel) (((Opens.refl _).append _).append _)
  | futureStage =>
      exact not_isSyntaxMessage "'" (by decide +kernel)
        ((((((Opens.refl _).append _).append _).append _).append _).append _)
  | unknown =>
      exact not_isSyntaxMessage "Unknown identifier '" (by decide +kernel) (((Opens.refl _).append _).append _)

theorem opens_shown {use : IndexUse} (h : use.owner = "stages".toList) : Opens "stages" use.shown := by
  rw [IndexUse.shown, h, String.ofList_toList]
  split
  · exact ((Opens.refl _).append _).append _
  · exact (((Opens.refl _).append _).append _).append _

/-- Of the messages about a formula, only those of errors of syntax start as they do. -/
theorem syntaxFault_of_mem_checkFormula : ∀ issue ∈ (checkFormula s p symbols formula).2,
    IsSyntaxMessage issue.message → issue.code = .syntaxFault := by
  apply forall_mem_checkFormula
  case hforbidden =>
    refine List.forall_mem_map.2 fun root _ hmessage => absurd hmessage ?_
    exact not_isSyntaxMessage "'" (by decide +kernel) (((Opens.refl _).append _).append _)
  case hindex =>
    intro use issue h hmessage
    refine absurd hmessage ?_
    unfold indexIssue? at h
    split at h
    · next howner =>
        split at h <;> cases h
        have hopens := opens_shown (beq_iff_eq.1 howner)
        exact not_isSyntaxMessage "stages" (by decide +kernel) ((hopens.append _).append _)
    · cases h
      exact not_isSyntaxMessage "Numeric index '" (by decide +kernel) (((Opens.refl _).append _).append _)
  case hread =>
    intro issue h _
    obtain ⟨message, rfl, -⟩ := of_readChecked_error h
    rfl
  case hname => exact fun f hmessage => absurd hmessage (not_isSyntaxMessage_name f)
  case htype => exact fun fault hmessage => absurd hmessage (not_isSyntaxMessage_type fault)

/-! ### Errors of a formula -/

/-- An error of syntax is about a text that cannot be read: where parentheses do not balance, none can. -/
theorem malformed_of_mem_checkFormula : ∀ issue ∈ (checkFormula s p symbols formula).2,
    issue.code = .syntaxFault → issue = s.error .syntaxFault issue.message ∧ Malformed formula := by
  apply forall_mem_checkFormula
  case hforbidden => exact List.forall_mem_map.2 fun _ _ hcode => nomatch hcode
  case hindex =>
    intro use issue h hcode
    rcases isFuture_or_of_indexIssue? h with hfuture | hother
    · rw [indexIssue?_of_isFuture hfuture] at h
      cases h
      cases hcode
    · exact absurd (hother.symm.trans hcode) nofun
  case hread =>
    intro issue h _
    obtain ⟨message, rfl, -⟩ := of_readChecked_error h
    refine ⟨rfl, ?_⟩
    cases hparse : parseFormula formula with
    | error fault => exact ⟨fault, hparse⟩
    | ok e =>
        rw [readChecked, if_pos (parensBalanced_of_parseFormula hparse), hparse] at h
        cases h
  case hname => exact fun f hcode => by cases f <;> cases hcode
  case htype => exact fun fault hcode => by cases fault <;> cases hcode

/-- A text that cannot be read raises an error of syntax. -/
theorem exists_of_malformed (h : Malformed formula) (s : Subject) (p : Place) (symbols : SymbolTable) :
    ∃ issue ∈ (checkFormula s p symbols formula).2, issue.isError ∧ issue.code = .syntaxFault ∧
      issue.ref = s.ref ∧ IsSyntaxMessage issue.message := by
  obtain ⟨fault, hparse⟩ := h
  cases hread : readChecked s formula with
  | ok e => exact absurd (hparse.symm.trans (parseFormula_of_readChecked hread)) nofun
  | error issue =>
      have hmessage := isSyntaxMessage_of_readChecked hread
      obtain ⟨message, rfl, -⟩ := of_readChecked_error hread
      refine ⟨_, ?_, rfl, rfl, rfl, hmessage⟩
      rw [checkFormula, hread]
      exact List.mem_append_right _ (List.mem_singleton_self _)

/-- **The report on a formula** has an error of syntax if and only if the formula cannot be read. -/
theorem exists_validateFormula_iff (formula : String) (symbols : SymbolTable) (currentStage : Nat) :
    (∃ issue ∈ validateFormula formula symbols currentStage, issue.isError ∧ issue.code = .syntaxFault) ↔
      Malformed formula := by
  constructor
  · rintro ⟨issue, h, -, hcode⟩
    exact (malformed_of_mem_checkFormula issue (Issue.mem_of_mem_canonical h) hcode).2
  · intro h
    obtain ⟨issue, hissue, herror, -, -, hmessage⟩ :=
      exists_of_malformed h ⟨.global, none⟩ { currentStage } symbols
    obtain ⟨kept, hkept, hkey⟩ := Issue.exists_mem_canonical hissue
    -- The kept issue may be another one with the same message, which then is of syntax too.
    have hsame : kept.message = issue.message := Issue.message_congr hkey
    refine ⟨kept, hkept, (Issue.isError_congr hkey).trans herror, ?_⟩
    exact syntaxFault_of_mem_checkFormula kept (Issue.mem_of_mem_canonical hkept) (hsame ▸ hmessage)

/-! ### Errors of logic -/

/-- A variable is defined by its formula unless that is blank. -/
theorem body_eq_formula_iff {v : Variable} :
    v.body = .formula formula ↔ v.formula = some formula ∧ Text.isAllBlank formula = false := by
  obtain ⟨name, formula?, value?⟩ := v
  unfold Variable.body
  cases formula? with
  | none => cases value? <;> simp
  | some text =>
      cases hblank : Text.isAllBlank text <;> cases value? <;> simp [hblank]
      all_goals
        rintro rfl
        exact hblank

/-- A variable whose formula cannot be read; a blank formula is none. -/
def MalformedVariable (v : Variable) : Prop :=
  ∃ formula, v.formula = some formula ∧ Text.isAllBlank formula = false ∧ Malformed formula

/-- No message about a variable itself is that of an error of syntax. -/
theorem not_isSyntaxMessage_ownIssues {position : Nat} {earlier : List String} {name : String} :
    ∀ issue ∈ variableNameIssues position name ++ takenNameIssues earlier symbols name,
      ¬ IsSyntaxMessage issue.message := by
  refine List.forall_mem_append.2 ⟨?_, ?_⟩
  · unfold variableNameIssues
    split
    · refine List.forall_mem_singleton.2 ?_
      exact not_isSyntaxMessage "Variable #" (by decide +kernel) (((Opens.refl _).append _).append _)
    · split
      · exact List.forall_mem_nil _
      · refine List.forall_mem_singleton.2 ?_
        exact not_isSyntaxMessage "'" (by decide +kernel) (((Opens.refl _).append _).append _)
  · unfold takenNameIssues
    dsimp only
    have hvariable (rest : String) : ¬ IsSyntaxMessage ("Variable '" ++ name ++ rest) :=
      not_isSyntaxMessage "Variable '" (by decide +kernel) (((Opens.refl _).append _).append _)
    split
    · exact List.forall_mem_singleton.2 (hvariable _)
    · split
      · exact List.forall_mem_singleton.2 (hvariable _)
      · exact List.forall_mem_nil _

namespace Request

variable {r : Request} {i : Nat}

/-- **What has the message of an error of syntax** is one. -/
theorem syntaxFault_of_mem_checkIssues :
    ∀ issue ∈ r.checkIssues i, IsSyntaxMessage issue.message → issue.code = .syntaxFault := by
  apply forall_mem_checkIssues
  case hown => exact fun _ _ _ _ issue h hmessage => absurd hmessage (not_isSyntaxMessage_ownIssues issue h)
  case hempty =>
    refine fun _ _ name => List.forall_mem_singleton.2 fun hmessage => absurd hmessage ?_
    exact not_isSyntaxMessage "Variable '" (by decide +kernel) (((Opens.refl _).append _).append _)
  case hformula => exact fun _ _ _ _ => syntaxFault_of_mem_checkFormula

/-- An error of syntax is about a variable whose formula cannot be read. -/
theorem malformed_of_mem_checkIssues {v : Variable} (hv : r.logic.vars[i]? = some v) {issue : Issue}
    (h : issue ∈ r.checkIssues i) (hcode : issue.code = .syntaxFault) :
    issue.ref = some (variableName v) ∧ MalformedVariable v := by
  rw [checkIssues_eq hv] at h
  rcases List.mem_append.1 h with h | h
  · exact absurd (hcode.symm.trans (of_mem_ownIssues issue h).2) nofun
  · cases hbody : v.body with
    | value x => rw [hbody] at h; cases h
    | empty => rw [hbody] at h; rw [List.mem_singleton.1 h] at hcode; cases hcode
    | formula text =>
        rw [hbody] at h
        obtain ⟨hissue, hmalformed⟩ := malformed_of_mem_checkFormula issue h hcode
        obtain ⟨hformula, hblank⟩ := body_eq_formula_iff.1 hbody
        exact ⟨congrArg Issue.ref hissue, text, hformula, hblank, hmalformed⟩

/-- A variable whose formula cannot be read raises an error of syntax. -/
theorem exists_of_malformedVariable {v : Variable} (hv : r.logic.vars[i]? = some v) (h : MalformedVariable v) :
    ∃ issue ∈ r.checkIssues i, issue.isError ∧ issue.code = .syntaxFault ∧
      issue.ref = some (variableName v) ∧ IsSyntaxMessage issue.message := by
  obtain ⟨formula, hformula, hblank, hmalformed⟩ := h
  obtain ⟨issue, hissue, hkind⟩ :=
    exists_of_malformed hmalformed (variableSubject (variableName v)) (r.place i) (r.symbolsAt i)
  exact ⟨issue, mem_checkIssues_of_formula hv (body_eq_formula_iff.2 ⟨hformula, hblank⟩) hissue, hkind⟩

/-- **Checking a variable raises an error of syntax** if and only if its formula cannot be read. -/
theorem exists_checkIssues_iff {v : Variable} (hv : r.logic.vars[i]? = some v) :
    (∃ issue ∈ r.checkIssues i, issue.isError ∧ issue.code = .syntaxFault) ↔ MalformedVariable v := by
  constructor
  · rintro ⟨issue, h, -, hcode⟩
    exact (malformed_of_mem_checkIssues hv h hcode).2
  · intro h
    obtain ⟨issue, hissue, herror, hcode, -⟩ := exists_of_malformedVariable hv h
    exact ⟨issue, hissue, herror, hcode⟩

/-- **The report on logic** has an error of syntax about the variables of a name if and only if the formula of one
of them cannot be read. -/
theorem exists_validateLogic_iff (r : Request) (name : String) :
    (∃ issue ∈ (validateLogic r).issues, issue.isError ∧ issue.code = .syntaxFault ∧ issue.scope = .var ∧
      issue.ref = some name) ↔ ∃ v ∈ r.logic.vars, variableName v = name ∧ MalformedVariable v := by
  constructor
  · rintro ⟨issue, h, -, hcode, hscope, href⟩
    obtain ⟨i, hissue⟩ := exists_mem_checkIssues_of_raised (Issue.mem_of_mem_canonical h) hscope
    obtain ⟨v, hv⟩ := exists_variable hissue
    obtain ⟨hname, hmalformed⟩ := malformed_of_mem_checkIssues hv hissue hcode
    exact ⟨v, List.mem_of_getElem? hv, Option.some.inj (hname.symm.trans href), hmalformed⟩
  · rintro ⟨v, hmem, rfl, hmalformed⟩
    obtain ⟨i, hv⟩ := List.getElem?_of_mem hmem
    obtain ⟨issue, hissue, herror, -, href, hmessage⟩ := exists_of_malformedVariable hv hmalformed
    obtain ⟨kept, hkept, hkey⟩ := exists_mem_issues hissue
    have hscope : kept.scope = .var := (Issue.scope_congr hkey).trans (scope_of_mem_checkIssues hissue)
    have hsame : kept.message = issue.message := Issue.message_congr hkey
    obtain ⟨j, hraised⟩ := exists_mem_checkIssues_of_raised (Issue.mem_of_mem_canonical hkept) hscope
    exact ⟨kept, hkept, (Issue.isError_congr hkey).trans herror,
      syntaxFault_of_mem_checkIssues kept hraised (hsame ▸ hmessage), hscope, (Issue.ref_congr hkey).trans href⟩

end Request

/-- **Syntax is checked as the parser reads.**  Parentheses balance in every text that can be read, so a formula is
reported with an error of syntax if and only if it cannot be read: on its own, or as the formula of a variable,
unless it is blank there, which makes it none. -/
theorem validate_syntaxFault :
    (∀ formula e, parseFormula formula = .ok e → parensBalanced formula) ∧
    (∀ formula symbols currentStage,
      (∃ issue ∈ validateFormula formula symbols currentStage, issue.isError ∧ issue.code = .syntaxFault) ↔
        ∃ fault, parseFormula formula = .error fault) ∧
    (∀ (r : Request) i v formula, r.logic.vars[i]? = some v → v.formula = some formula →
      ((∃ issue ∈ r.checkIssues i, issue.isError ∧ issue.code = .syntaxFault) ↔
        Text.isAllBlank formula = false ∧ ∃ fault, parseFormula formula = .error fault)) ∧
    ∀ (r : Request) name,
      (∃ issue ∈ (validateLogic r).issues, issue.isError ∧ issue.code = .syntaxFault ∧ issue.scope = .var ∧
        issue.ref = some name) ↔
      ∃ v ∈ r.logic.vars, variableName v = name ∧ ∃ formula, v.formula = some formula ∧
        Text.isAllBlank formula = false ∧ ∃ fault, parseFormula formula = .error fault := by
  refine ⟨fun _ _ => parensBalanced_of_parseFormula, exists_validateFormula_iff,
    fun r i v formula hv hformula => ?_, Request.exists_validateLogic_iff⟩
  rw [Request.exists_checkIssues_iff hv, MalformedVariable, hformula]
  exact ⟨fun ⟨_, hsame, h⟩ => Option.some.inj hsame ▸ h, fun h => ⟨formula, rfl, h⟩⟩

/-- Logic of one variable with a blank formula. -/
def blankFormula : Request where
  params := []
  inputs := []
  logic := ⟨[⟨"area", some " ", none⟩]⟩
  outputs := none
  currentStage := 0

/-- A blank text cannot be read and is an error of syntax on its own; for a variable it is no formula. -/
theorem validateLogic_blankFormula :
    parseFormula " " = .error (.malformed .empty) ∧
    (∃ v ∈ blankFormula.logic.vars, v.formula = some " ") ∧
    validateFormula " " .empty 0 = [(⟨.global, none⟩ : Subject).error .syntaxFault "Parse error: Empty formula"] ∧
    (validateLogic blankFormula).issues = [(variableSubject "area").error .definition
      "Variable 'area' has neither a formula nor a value"] := by
  have hscan : Formula.Token.scan " " = .ok [] := by decide +kernel
  have hparse : parseFormula " " = .error (.malformed .empty) := by
    rw [parseFormula, hscan]
    rfl
  exact ⟨hparse, ⟨_, List.mem_singleton_self _, rfl⟩, by decide +kernel, by decide +kernel⟩

end Validation

end Costing
