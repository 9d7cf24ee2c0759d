import Costing.Native
import Costing.Proofs.Stage.Outputs
import Costing.Proofs.Text.Trim
import Costing.Proofs.Validation.Report

/-!
# Stage — validated mappings

The check of the mapping of results and a run read keys in the same way, so mappings that are validated without errors
all have a key, and no two of them have results of one name.

* `ResultKey.parse_trim`: blanks around a key do not matter, so it makes no difference that the check takes them off
  before it reads the key and a run does not.
* `Validation.of_mappingIssues_eq_nil`: what mappings are like that nothing is reported about.
* `Stage.outputs_of_validated`: **no mapping is lost.**  The outputs of a run hold, under the name of each mapping's
  result, what its source holds, and nothing else.
-/

namespace Costing

open Costing.Formula (Cache)

/-! ### Blanks around a key -/

theorem ResultKey.parse_trim (text : String) : parse (Text.trim text) = parse text := by
  unfold parse
  rw [Text.trim_trim]

/-! ### Mappings without an issue -/

namespace Validation

theorem mappedName?_eq (m : OutputMapping) : mappedName? m = m.resultName? := by
  rw [mappedName?, ResultKey.parse_trim, OutputMapping.resultName?]

/-- Whatever is reported about mappings stops. -/
theorem isError_of_mem_mappingIssues {symbols : Formula.SymbolTable} {earlier : List String}
    {ms : List OutputMapping} : ∀ issue ∈ mappingIssues symbols earlier ms, issue.isError = true := by
  induction ms generalizing earlier with
  | nil => exact List.forall_mem_nil _
  | cons m rest ih =>
      rw [mappingIssues, List.forall_mem_append, List.forall_mem_append]
      refine ⟨⟨?_, ?_⟩, ih⟩
      · unfold resultKeyIssues
        split
        · split <;> simp [Subject.error, Issue.isError]
        · simp [Subject.error, Issue.isError]
      · unfold resultSourceIssues
        dsimp only
        split
        · simp [Subject.error, Issue.isError]
        · split <;> simp [Subject.error, Issue.isError]

/-- A key without an issue is one, and its name is new. -/
theorem exists_key_of_resultKeyIssues {earlier : List String} {text : String}
    (h : resultKeyIssues earlier text = []) : ∃ key, ResultKey.parse text = .ok key ∧ key.name ∉ earlier := by
  unfold resultKeyIssues at h
  cases hkey : ResultKey.parse text with
  | error fault => rw [hkey] at h; cases h
  | ok key =>
      rw [hkey] at h
      refine ⟨key, rfl, fun hmem => ?_⟩
      simp [hmem] at h

/-- **Mappings without an issue** all have keys, of names that are new and differ. -/
theorem of_mappingIssues_eq_nil {symbols : Formula.SymbolTable} {earlier : List String} {ms : List OutputMapping}
    (h : mappingIssues symbols earlier ms = []) :
    (∀ m ∈ ms, ∃ key, ResultKey.parse m.key = .ok key ∧ key.name ∉ earlier) ∧
    ms.Pairwise fun m n => m.resultName? ≠ n.resultName? := by
  induction ms generalizing earlier with
  | nil => exact ⟨List.forall_mem_nil _, List.Pairwise.nil⟩
  | cons m rest ih =>
      rw [mappingIssues, List.append_eq_nil_iff, List.append_eq_nil_iff] at h
      obtain ⟨⟨hkeyIssues, -⟩, hrestIssues⟩ := h
      obtain ⟨key, hkey, hnew⟩ := exists_key_of_resultKeyIssues hkeyIssues
      rw [ResultKey.parse_trim] at hkey
      have hname := OutputMapping.resultName?_of_parse hkey
      rw [mappedName?_eq, hname] at hrestIssues
      obtain ⟨hkeys, hdistinct⟩ := ih hrestIssues
      refine ⟨List.forall_mem_cons.2 ⟨⟨key, hkey, hnew⟩, fun n hn => ?_⟩,
        List.pairwise_cons.2 ⟨fun n hn => ?_, hdistinct⟩⟩
      · obtain ⟨other, hother, hfresh⟩ := hkeys n hn
        exact ⟨other, hother, fun hmem => hfresh (List.mem_cons_of_mem _ hmem)⟩
      · obtain ⟨other, hother, hfresh⟩ := hkeys n hn
        rw [hname, OutputMapping.resultName?_of_parse hother]
        intro hsame
        exact hfresh (Option.some.inj hsame ▸ List.mem_cons_self)

/-- In a report without errors, nothing is said about mappings but that some are missing. -/
theorem Request.mappingIssues_eq_nil {r : Request} {ms : List OutputMapping} (houtputs : r.outputs = some ms)
    (hr : (validateLogic r).hasErrors = false) : mappingIssues r.checkedVariables.symbols [] ms = [] := by
  refine List.eq_nil_iff_forall_not_mem.2 fun issue hissue => ?_
  have hraised : issue ∈ r.raised := by
    rw [raised, houtputs]
    exact List.mem_append_right _ (List.mem_append_left _ hissue)
  rw [hasErrors_eq] at hr
  exact List.any_eq_false.1 hr issue hraised (isError_of_mem_mappingIssues issue hissue)

end Validation

namespace Stage

open Costing.Validation (validateLogic)

/-- **No validated mapping is lost.**  If a check that was given the mappings of a stage finds no error, then in every
run of the stage each mapping has a key and leaves under the name of its result just what its source holds in the final
context: a value if it holds one that is there, and nothing if not.  Nothing else is among the outputs, and no two
mappings have one name. -/
theorem outputs_of_validated [Platform] {r : Validation.Request} {s : Stage} (houtputs : r.outputs = some s.outputs)
    (hr : (validateLogic r).hasErrors = false) (w : Surroundings) (options : CostOptions)
    (done : List (StageResult Float)) (cache : Cache) :
    let outputs := (s.calculateWith w options done cache).1.1.cost.outputs
    (∀ m ∈ s.outputs, ∃ key, ResultKey.parse m.key = .ok key ∧
      outputs.get? key.name = m.taken? (s.finalContext w done)) ∧
    (∀ name v, outputs.get? name = some v → ∃ m ∈ s.outputs, m.resultName? = some name) ∧
    s.outputs.Pairwise fun m n => m.resultName? ≠ n.resultName? := by
  intro outputs
  obtain ⟨hkeys, hdistinct⟩ := Validation.of_mappingIssues_eq_nil (r.mappingIssues_eq_nil houtputs hr)
  have hrun : outputs = mapOutputs (s.finalContext w done) s.outputs := outputs_calculateWith
  refine ⟨fun m hm => ?_, fun name v hv => ?_, hdistinct⟩
  · obtain ⟨key, hkey, -⟩ := hkeys m hm
    exact ⟨key, hkey, hrun ▸ get?_mapOutputs_of_distinct hdistinct hm hkey⟩
  · exact exists_mapping_of_get?_mapOutputs (hrun ▸ hv)

/-- A calculator of a price and a rate that there is nothing to compute from. -/
def rated : Calculator where
  id := "rated"
  name := none
  params := [⟨"area", some "number"⟩]
  logic := ⟨[⟨"price", none, some (.number 2)⟩, ⟨"rate", some "price / area", none⟩]⟩

/-- A stage with that calculator, with blanks in its mappings. -/
def ratedStage : Stage where
  id := "print"
  calculatorId := some "rated"
  inputs := [⟨"area", "properties.area"⟩]
  outputs := [⟨" basePrice ", "price"⟩, ⟨"rate | Rate", " rate "⟩, ⟨"per-unit|Per unit", "price"⟩]

/-- What it is checked with. -/
def ratedRequest : Validation.Request :=
  ⟨rated.params, ratedStage.inputs, rated.logic, some ratedStage.outputs, 0⟩

open Native

theorem outputs_of_validated_rated :
    let w : Surroundings := ⟨.null, ⟨[rated], .empty, .empty⟩, none, []⟩
    let outputs := (ratedStage.calculateWith w {} [] .empty).1.1.cost.outputs
    ratedRequest.outputs = some ratedStage.outputs ∧ (validateLogic ratedRequest).hasErrors = false ∧
    (∀ m ∈ ratedStage.outputs, ∃ key, ResultKey.parse m.key = .ok key ∧
      outputs.get? key.name = m.taken? (ratedStage.finalContext w [])) ∧
    (∀ name v, outputs.get? name = some v → ∃ m ∈ ratedStage.outputs, m.resultName? = some name) ∧
    ratedStage.outputs.Pairwise fun m n => m.resultName? ≠ n.resultName? := by
  intro w outputs
  have hr : (validateLogic ratedRequest).hasErrors = false := by
    rw [Validation.Request.hasErrors_eq]
    decide +kernel
  exact ⟨rfl, hr, outputs_of_validated rfl hr w {} [] .empty⟩

end Stage

end Costing
