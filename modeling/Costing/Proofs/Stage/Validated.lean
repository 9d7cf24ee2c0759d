import Costing.Cost.Stage
import Costing.Native
import Costing.Proofs.Formula.Faults
import Costing.Proofs.Validation.Report

/-!
# Stage — what validated logic can fail with

A run evaluates the formulas of a stage one after the other, each in the context that those before it
left.  `Stage.attempts` lists these evaluations.

`attempts_of_validated`: the failures that a run counts are those of the evaluations.  Logic that is validated
without errors for the inputs and the place of the stage has only formulas with a tree, and an evaluation of one
fails only inside a function, by a fault in an argument or in a pattern.  This holds whatever the offer, the
catalog and the earlier results are.
-/

namespace Costing

open Costing.Formula (Cache Context Expr Fault Raised WellCalled parseFormula tryEvaluate)

/-! ### The formulas that a run evaluates -/

/-- The evaluation of a formula: the tree that was read for it and the context that it is evaluated in. -/
structure Attempt where
  formula : String
  tree : Except Fault Expr
  context : Context

namespace Attempt

/-- What the evaluation gives. -/
def outcome [Platform] (a : Attempt) : Except Fault (Option Value) :=
  a.tree.bind (tryEvaluate a.context)

/-- Whether it fails. -/
def failed [Platform] (a : Attempt) : Bool :=
  (Variables.ofOutcome a.outcome).2

end Attempt

namespace Variables

/-- The evaluation that computing a variable makes. -/
def attempt? (s : Variables × Cache) (v : Variable) : Option Attempt :=
  match v.body with
  | .formula text => some ⟨text, (s.2.parse text).1.map Formula.Numbered.expr, s.1.context⟩
  | .value _ | .empty => none

/-- The evaluations that computing some variables makes, in order. -/
def attempts [Platform] (s : Variables × Cache) : List Variable → List Attempt
  | [] => []
  | v :: rest => (attempt? s v).toList ++ attempts (compute s v) rest

theorem failures_compute [Platform] (s : Variables × Cache) (v : Variable) :
    (compute s v).1.failures = s.1.failures + (attempt? s v).toList.countP Attempt.failed := by
  unfold compute attempt?
  cases v.body with
  | value x | empty => rfl
  | formula text =>
      have hsame : (valueOf s.1.context s.2 (.formula text)).1 =
          ofOutcome (Attempt.outcome ⟨text, (s.2.parse text).1.map Formula.Numbered.expr, s.1.context⟩) := by
        show ofOutcome ((s.2.parse text).1.bind fun n => tryEvaluate s.1.context n.expr) = _
        unfold Attempt.outcome
        cases (s.2.parse text).1 <;> rfl
      have hcount (a : Attempt) : [a].countP Attempt.failed = a.failed.toNat := by
        rw [List.countP_singleton]
        cases a.failed <;> rfl
      simp only [add, hsame, Option.toList_some, hcount, Attempt.failed]

/-- The failures that are counted are those of the evaluations. -/
theorem failures_foldl [Platform] (s : Variables × Cache) (vars : List Variable) :
    (vars.foldl compute s).1.failures = s.1.failures + (attempts s vars).countP Attempt.failed := by
  induction vars generalizing s with
  | nil => rfl
  | cons v rest ih =>
      rw [List.foldl_cons, ih, failures_compute, attempts, List.countP_append, Nat.add_assoc]

/-- Each evaluation is of the formula of a variable, with the tree that its text has. -/
theorem exists_of_mem_attempts [Platform] {s : Variables × Cache} {vars : List Variable} {a : Attempt}
    (h : a ∈ attempts s vars) :
    ∃ v ∈ vars, v.body = .formula a.formula ∧ a.tree = parseFormula a.formula := by
  induction vars generalizing s with
  | nil => cases h
  | cons v rest ih =>
      rcases List.mem_append.1 h with h | h
      · refine ⟨v, List.mem_cons_self, ?_⟩
        unfold attempt? at h
        split at h
        · next text hbody =>
            rw [Option.toList_some, List.mem_singleton] at h
            subst h
            exact ⟨hbody, s.2.parse_fst text⟩
        all_goals cases h
      · obtain ⟨u, hu, hbody⟩ := ih h
        exact ⟨u, List.mem_cons_of_mem _ hu, hbody⟩

end Variables

namespace Stage

/-- The evaluations that calculating a stage makes, after some results and with some formulas read. -/
def attempts [Platform] (w : Surroundings) (s : Stage) (done : List (StageResult Float)) (cache : Cache) :
    List Attempt :=
  match s.calculatorId.bind w.catalog.calculator? with
  | some calculator =>
    let ctx := { w with prior := done.map StageResult.toValue }.context s.inputs
    Variables.attempts (⟨ctx, .empty, 0⟩, cache) calculator.logic.vars
  | none => []

/-- The failures that a run counts are those of the evaluations. -/
theorem calculateWith_failures [Platform] (w : Surroundings) (options : CostOptions) (s : Stage)
    (done : List (StageResult Float)) (cache : Cache) :
    (s.calculateWith w options done cache).1.2 = (s.attempts w done cache).countP Attempt.failed := by
  unfold calculateWith computeVariables attempts
  dsimp only
  cases s.calculatorId.bind w.catalog.calculator? with
  | some calculator => exact (Variables.failures_foldl _ _).trans (Nat.zero_add _)
  | none => rfl

end Stage

/-! ### Formulas that are checked without errors -/

namespace Validation

/-- A formula that is checked without errors has a tree, and its calls can be made. -/
theorem exists_tree_of_checked {s : Subject} {p : Place} {symbols : Formula.SymbolTable} {formula : String}
    (h : ∀ issue ∈ (checkFormula s p symbols formula).2, issue.isError = false) :
    ∃ e, parseFormula formula = .ok e ∧ WellCalled e := by
  have herror (code : IssueCode) (message : String) : (s.error code message).isError ≠ false := nofun
  have hread : ∃ e, readChecked s formula = .ok e ∧ parseFormula formula = .ok e := by
    unfold checkFormula at h
    cases hread : readChecked s formula with
    | error issue =>
        rw [hread] at h
        have hissue := h issue (by simp)
        unfold readChecked at hread
        split at hread
        · cases hparse : parseFormula formula with
          | error fault =>
              rw [hparse] at hread
              cases hread
              exact absurd hissue (herror _ _)
          | ok e => rw [hparse] at hread; cases hread
        · cases hread
          exact absurd hissue (herror _ _)
    | ok e =>
        refine ⟨e, rfl, ?_⟩
        unfold readChecked at hread
        split at hread
        · cases hparse : parseFormula formula with
          | error fault => rw [hparse] at hread; cases hread
          | ok e' => rw [hparse] at hread; cases hread; rfl
        · cases hread
  obtain ⟨e, hread, hparse⟩ := hread
  refine ⟨e, hparse, Formula.infer_wellCalled symbols e fun fault hfault => ?_⟩
  -- a fault in types is reported with its own severity, unless it is a warning about a name
  by_cases hcode : fault.code = .unknownIdentifier
  · cases fault with
    | unknownIdentifier => rfl
    | _ => cases hcode
  · have hmem : typeIssue s fault ∈ (checkFormula s p symbols formula).2 := by
      unfold checkFormula
      rw [hread]
      refine List.mem_append_right _ (List.mem_map_of_mem (List.mem_filter.2 ⟨hfault, ?_⟩))
      exact bne_iff_ne.2 hcode
    exact h _ hmem

/-- In a report without errors, every formula has a tree, and its calls can be made. -/
theorem Request.exists_tree {r : Request} (hr : (validateLogic r).hasErrors = false) {v : Variable}
    {formula : String} (hv : v ∈ r.logic.vars) (hbody : v.body = .formula formula) :
    ∃ e, parseFormula formula = .ok e ∧ WellCalled e := by
  obtain ⟨i, hi⟩ := List.mem_iff_getElem?.1 hv
  exact exists_tree_of_checked fun issue hissue =>
    isError_eq_false_of_mem hr (mem_checkIssues_of_formula hi hbody hissue)

end Validation

namespace Stage

open Costing.Validation (validateLogic)

/-- **Validated logic fails only inside functions.**  If the logic of a stage's calculator is validated
without errors, with the inputs of the stage and as many stages before it as there are results, then
every formula that a run of the stage evaluates has a tree, and an evaluation that fails does so by a
fault that a function gives for as many arguments as it takes: one in an argument or in a pattern.  The
failures that the run counts are those of these evaluations. -/
theorem attempts_of_validated [Platform] {w : Surroundings} {s : Stage} {c : Calculator}
    {done : List (StageResult Float)} {outputs : Option (List OutputMapping)}
    (hc : s.calculatorId.bind w.catalog.calculator? = some c)
    (h : (validateLogic ⟨c.params, s.inputs, c.logic, outputs, done.length⟩).hasErrors = false)
    (cache : Cache) :
    (∀ a ∈ s.attempts w done cache,
      (∃ e, a.tree = .ok e) ∧
        ∀ fault, a.outcome = .error fault → Raised fault ∧ fault.OfBuiltin) ∧
    ∀ options, (s.calculateWith w options done cache).1.2 = (s.attempts w done cache).countP Attempt.failed := by
  refine ⟨fun a ha => ?_, fun options => calculateWith_failures w options s done cache⟩
  unfold attempts at ha
  rw [hc] at ha
  obtain ⟨v, hv, hbody, htree⟩ := Variables.exists_of_mem_attempts ha
  obtain ⟨e, hparse, hcalled⟩ := Validation.Request.exists_tree h hv hbody
  rw [hparse] at htree
  refine ⟨⟨e, htree⟩, fun fault hfault => ?_⟩
  have houtcome : a.outcome = tryEvaluate a.context e := by
    rw [Attempt.outcome, htree]
    rfl
  have hraised := (hcalled.tryEvaluate_failsOnly a.context).of_error (houtcome.symm.trans hfault)
  exact ⟨hraised, hraised.ofBuiltin⟩

/-- A calculator that rounds its input to as many places as another input says. -/
def rounding : Calculator where
  id := "rounding"
  name := none
  params := [⟨"width", some "number"⟩, ⟨"places", none⟩]
  logic := ⟨[⟨"area", some "width * width", none⟩, ⟨"rounded", some "round(area, places)", none⟩]⟩

/-- A stage with that calculator, whose places are wired to a text. -/
def roundedStage : Stage where
  id := "cut"
  calculatorId := some "rounding"
  inputs := [⟨"width", "properties.width"⟩, ⟨"places", "properties.unit"⟩]

/-- An offer with a text for the places. -/
def roundedOffer : Surroundings where
  offer := .record [("properties", .record [("unit", .string "mm"), ("width", .number 3)])]
  catalog := ⟨[rounding], .empty, .empty⟩

open Native

theorem attempts_of_validated_rounding :
    roundedStage.calculatorId.bind roundedOffer.catalog.calculator? = some rounding ∧
    (validateLogic ⟨rounding.params, roundedStage.inputs, rounding.logic, none, 0⟩).hasErrors = false ∧
    (∀ a ∈ roundedStage.attempts roundedOffer [] .empty,
      (∃ e, a.tree = .ok e) ∧
        ∀ fault, a.outcome = .error fault → Raised fault ∧ fault.OfBuiltin) ∧
    (roundedStage.calculateWith roundedOffer {} [] .empty).1.2 =
      (roundedStage.attempts roundedOffer [] .empty).countP Attempt.failed := by
  have hc : roundedStage.calculatorId.bind roundedOffer.catalog.calculator? = some rounding := rfl
  have hr : (validateLogic ⟨rounding.params, roundedStage.inputs, rounding.logic, none,
      ([] : List (StageResult Float)).length⟩).hasErrors = false := by decide +kernel
  obtain ⟨hattempts, hfailures⟩ := attempts_of_validated hc hr .empty
  exact ⟨hc, hr, hattempts, hfailures {}⟩

end Stage

end Costing
