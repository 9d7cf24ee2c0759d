import Costing.Native
import Costing.Proofs.Validation.PathIndices
import Costing.Stage.Context

/-!
# Validation — wirings whose path cannot be read

The check of a wiring looks for nothing at all in its path, for forbidden sources and for indices, and does not read the
path; a run reads it, and leaves the input out if it cannot.

* `ObjectsTo`: issues with an error about an input.
* `objectsTo_paramIssues`, `objectsTo_wiringIssues`, `objectsTo_sourceIssues`: what the checks of the inputs raise one
  for.
* `Request.Objects`: what a report on some logic has an error about a wired input for.
* `validateLogic_malformed`: **a path that cannot be read is not reported as such** unless it is empty, and every run
  goes on as if the wiring were not there.
* `validateLogic_unreported`: for each other fault a path with it, and a report without issues.
-/

namespace Costing

namespace Path

theorem readFrom_ne_empty (r : Reading) (cs : List Char) : readFrom r cs ≠ .error .empty := by
  fun_induction readFrom r cs <;> first | assumption | simp

/-- A path is empty if it has blanks only. -/
theorem parse_eq_empty_iff {text : String} : parse text = .error .empty ↔ Text.trim text = "" := by
  rw [parse, Text.trim, String.ofList_eq_empty_iff, ← List.isEmpty_iff]
  split
  · next h => simp [h]
  · next h => simp [h, readFrom_ne_empty]

end Path

namespace Validation

/-! ### Errors about an input -/

/-- Issues with an error about an input. -/
def ObjectsTo (issues : List Issue) (name : String) : Prop :=
  ∃ issue ∈ issues, issue.isError ∧ issue.scope = .input ∧ issue.ref = some name

section ObjectsTo

variable {issues rest : List Issue} {name subject message : String} {code : IssueCode} {hint : Option String}

@[simp] theorem not_objectsTo_nil : ¬ ObjectsTo [] name := by
  simp [ObjectsTo]

@[simp] theorem objectsTo_append : ObjectsTo (issues ++ rest) name ↔ ObjectsTo issues name ∨ ObjectsTo rest name := by
  simp only [ObjectsTo, List.mem_append, or_and_right, exists_or]

@[simp] theorem objectsTo_error :
    ObjectsTo [(inputSubject subject).error code message hint] name ↔ subject = name := by
  simp [ObjectsTo, inputSubject, Subject.error, Issue.isError]

/-- An error that is raised if something holds. -/
theorem objectsTo_ite {p q : Prop} [Decidable p] (h : subject = name → (p ↔ q)) :
    ObjectsTo (if p then [(inputSubject subject).error code message hint] else []) name ↔ subject = name ∧ q := by
  rw [← and_congr_right h]
  split <;> simp [*]

/-- An error that is raised unless something holds. -/
theorem objectsTo_ite_not {p q : Prop} [Decidable p] (h : subject = name → (p ↔ q)) :
    ObjectsTo (if p then [] else [(inputSubject subject).error code message hint]) name ↔ subject = name ∧ ¬ q := by
  rw [← ite_not, objectsTo_ite fun hname => not_congr (h hname)]

theorem objectsTo_map {α : Type} {f : α → Issue} {p : α → Prop} {xs : List α}
    (h : ∀ x, ObjectsTo [f x] name ↔ p x) : ObjectsTo (xs.map f) name ↔ ∃ x ∈ xs, p x := by
  simp only [← h, ObjectsTo, List.mem_singleton, exists_eq_left, List.mem_map, exists_exists_and_eq_and]

/-- Putting issues in order changes nothing. -/
theorem objectsTo_canonical : ObjectsTo (Issue.canonical issues) name ↔ ObjectsTo issues name := by
  constructor
  · rintro ⟨issue, hissue, h⟩
    exact ⟨issue, Issue.mem_of_mem_canonical hissue, h⟩
  · rintro ⟨issue, hissue, herror, hscope, href⟩
    obtain ⟨kept, hkept, hkey⟩ := Issue.exists_mem_canonical hissue
    exact ⟨kept, hkept, (Issue.isError_congr hkey).trans herror, (Issue.scope_congr hkey).trans hscope,
      (Issue.ref_congr hkey).trans href⟩

end ObjectsTo

/-! ### What is objected to -/

/-- The indices that the check of a path lets through: those of the stages up to the current one. -/
def IndexUse.Admitted (use : IndexUse) (currentStage : Nat) : Prop :=
  use.owner = "stages".toList ∧ ∃ stage, use.stage? = some stage ∧ stage ≤ currentStage

theorem indexIssue?_eq_none_iff {s : Subject} {currentStage : Nat} {use : IndexUse} :
    indexIssue? s currentStage use = none ↔ use.Admitted currentStage := by
  refine ⟨exists_stage_of_indexIssue?, ?_⟩
  rintro ⟨howner, stage, hstage, hle⟩
  rw [indexIssue?, if_pos (beq_iff_eq.2 howner), if_pos (by simpa [hstage] using hle)]

/-- A name that stands twice among names, or once if it stands among earlier ones. -/
def Repeated (earlier names : List String) (name : String) : Prop :=
  2 ≤ names.count name ∨ name ∈ earlier ∧ name ∈ names

theorem repeated_cons {earlier names : List String} {n name : String} :
    Repeated earlier (n :: names) name ↔ n = name ∧ name ∈ earlier ∨ Repeated (n :: earlier) names name := by
  by_cases hname : n = name
  · subst hname
    have hmem : n ∈ names ↔ 2 ≤ names.count n + 1 := by
      rw [← List.count_pos_iff]
      omega
    have hmore : 2 ≤ names.count n → n ∈ names := fun h => hmem.2 (Nat.le_succ_of_le h)
    simp only [Repeated, List.count_cons_self, List.mem_cons_self, true_and, and_true, ← hmem]
    tauto
  · simp [Repeated, hname, Ne.symm hname]

theorem repeated_nil {names : List String} {name : String} : Repeated [] names name ↔ 2 ≤ names.count name := by
  simp [Repeated]

/-- The name of a param is objected to if it is none, and if it is repeated. -/
theorem objectsTo_paramIssues {name : String} (earlier : List String) (params : List Param) :
    ObjectsTo (paramIssues earlier params) name ↔
      name ∈ params.map paramName ∧ isValidName name = false ∨ Repeated earlier (params.map paramName) name := by
  induction params generalizing earlier with
  | nil => simp [paramIssues, Repeated]
  | cons p rest ih =>
      rw [paramIssues, objectsTo_append, objectsTo_append, ih, List.map_cons, repeated_cons, List.mem_cons,
        eq_comm (a := name), objectsTo_ite_not fun hname => by rw [hname],
        objectsTo_ite fun hname => by rw [hname, List.contains_iff_mem], or_and_right, Bool.not_eq_true]
      simp only [or_assoc, or_left_comm]

section Source

variable {currentStage : Nat} {subject name path : String}

theorem objectsTo_forbiddenIssues : ObjectsTo (forbiddenIssues (inputSubject subject) path) name ↔
    subject = name ∧ ∃ root ∈ forbiddenRoots, mentionsWord path root := by
  rw [forbiddenIssues, objectsTo_map fun root => objectsTo_error, forbiddenIn]
  simp only [List.mem_filter]
  tauto

theorem objectsTo_indexIssues : ObjectsTo (indexIssues (inputSubject subject) currentStage path) name ↔
    subject = name ∧ ∃ use ∈ indexUses path, ¬ use.Admitted currentStage := by
  constructor
  · rintro ⟨issue, hissue, -, -, href⟩
    obtain ⟨use, huse, hissue⟩ := List.mem_filterMap.1 hissue
    obtain ⟨-, hsubject, -⟩ := ofIndex_of_indexIssue? hissue
    refine ⟨Option.some.inj (hsubject.symm.trans href), use, huse, fun hadmitted => ?_⟩
    exact absurd (hissue.symm.trans (indexIssue?_eq_none_iff.2 hadmitted)) nofun
  · rintro ⟨rfl, use, huse, hadmitted⟩
    obtain ⟨issue, hissue⟩ := Option.ne_none_iff_exists'.1 (mt indexIssue?_eq_none_iff.1 hadmitted)
    obtain ⟨herror, href, hkind⟩ := ofIndex_of_indexIssue? hissue
    exact ⟨issue, List.mem_filterMap.2 ⟨use, huse, hissue⟩, herror, hkind.1, href⟩

/-- A path is objected to if it is empty, and for each forbidden source and each index that is not let through. -/
theorem objectsTo_sourceIssues : ObjectsTo (sourceIssues currentStage subject path) name ↔
    subject = name ∧ (path = "" ∨ (∃ root ∈ forbiddenRoots, mentionsWord path root) ∨
      ∃ use ∈ indexUses path, ¬ use.Admitted currentStage) := by
  rw [sourceIssues]
  split
  · next hempty => simp [String.isEmpty_iff.1 hempty]
  · next hempty =>
      have hne : path ≠ "" := fun h => hempty (String.isEmpty_iff.2 h)
      rw [objectsTo_append, objectsTo_forbiddenIssues, objectsTo_indexIssues, ← and_or_left, or_iff_right hne]

end Source

/-- The name of a wiring is objected to if it is none of a param, and if it is repeated; else it is its path. -/
theorem objectsTo_wiringIssues {declared : List String} {currentStage : Nat} {name : String} (earlier : List String)
    (inputs : List Wiring) : ObjectsTo (wiringIssues declared currentStage earlier inputs) name ↔
      name ∈ inputs.map wiredName ∧ name ∉ declared ∨ Repeated earlier (inputs.map wiredName) name ∨
        ∃ u ∈ inputs, ObjectsTo (sourceIssues currentStage (wiredName u) (Text.trim u.sourcePath)) name := by
  induction inputs generalizing earlier with
  | nil => simp [wiringIssues, Repeated]
  | cons u rest ih =>
      rw [wiringIssues, objectsTo_append, objectsTo_append, objectsTo_append, ih, List.map_cons, repeated_cons,
        List.mem_cons, eq_comm (a := name), List.exists_mem_cons_iff,
        objectsTo_ite fun hname => by rw [hname, List.contains_iff_mem],
        objectsTo_ite_not fun hname => by rw [hname, List.contains_iff_mem], or_and_right]
      simp only [or_assoc, or_left_comm, or_comm]

theorem not_objectsTo_unwiredIssues (inputs : List Wiring) (params : List Param) (name : String) :
    ¬ ObjectsTo (unwiredIssues inputs params) name := by
  rintro ⟨issue, hissue, herror, -⟩
  obtain ⟨p, -, hp⟩ := List.mem_filterMap.1 hissue
  dsimp only at hp
  split at hp
  · cases hp
  · cases hp
    cases herror

namespace Request

variable {r : Request} {u : Wiring}

/-- What a report has an error about the input of a wiring for. -/
inductive Objects (r : Request) (u : Wiring) : Prop
  /-- Its path is empty, which is one of the faults of paths. -/
  | empty (h : Path.parse u.sourcePath = .error .empty)
  /-- Its path mentions a forbidden source. -/
  | source {root : String} (hroot : root ∈ forbiddenRoots) (h : mentionsWord (Text.trim u.sourcePath) root)
  /-- Its path has an index that is none of a stage up to the current one. -/
  | index {use : IndexUse} (huse : use ∈ indexUses (Text.trim u.sourcePath)) (h : ¬ use.Admitted r.currentStage)
  /-- Another wiring has the same name. -/
  | rewired (h : 2 ≤ (r.inputs.map wiredName).count (wiredName u))
  /-- No param has the name, or several have it. -/
  | declared (h : (r.params.map paramName).count (wiredName u) ≠ 1)
  /-- The name is none that a param may have. -/
  | name (h : isValidName (wiredName u) = false)

/-- Errors about an input come from the checks of the inputs. -/
theorem objectsTo_issues {name : String} :
    ObjectsTo (validateLogic r).issues name ↔ ObjectsTo (inputIssues r) name := by
  have hissues : (validateLogic r).issues = Issue.canonical r.raised := rfl
  rw [hissues, objectsTo_canonical]
  constructor
  · rintro ⟨issue, hissue, herror, hscope, href⟩
    exact ⟨issue, mem_inputIssues_of_raised hissue hscope, herror, hscope, href⟩
  · rintro ⟨issue, hissue, h⟩
    exact ⟨issue, List.mem_append_left _ (List.mem_append_left _ hissue), h⟩

/-- A name that stands once is that of one wiring. -/
theorem eq_of_count {inputs : List Wiring} {u w : Wiring} (hu : u ∈ inputs) (hw : w ∈ inputs)
    (hname : wiredName w = wiredName u) (hcount : ¬ 2 ≤ (inputs.map wiredName).count (wiredName u)) : w = u := by
  have hmemu : u ∈ inputs.filter (wiredName · == wiredName u) := List.mem_filter.2 ⟨hu, beq_iff_eq.2 rfl⟩
  have hmemw : w ∈ inputs.filter (wiredName · == wiredName u) := List.mem_filter.2 ⟨hw, beq_iff_eq.2 hname⟩
  have hlength : (inputs.filter (wiredName · == wiredName u)).length = 1 := by
    have hpos := List.length_pos_of_mem hmemu
    have hfilter : (inputs.map wiredName).count (wiredName u) =
        (inputs.filter (wiredName · == wiredName u)).length := by
      rw [List.count, List.countP_map, List.countP_eq_length_filter]
      rfl
    omega
  obtain ⟨v, hv⟩ := List.length_eq_one_iff.1 hlength
  rw [hv, List.mem_singleton] at hmemu hmemw
  rw [hmemu, hmemw]

/-- **What is reported about the input of a wiring**: errors of its name, and of its path if it is the only one. -/
theorem objectsTo_issues_iff (hu : u ∈ r.inputs) : ObjectsTo (validateLogic r).issues (wiredName u) ↔ r.Objects u := by
  rw [objectsTo_issues, inputIssues, objectsTo_append, objectsTo_append, objectsTo_paramIssues, objectsTo_wiringIssues,
    repeated_nil, repeated_nil, or_iff_left (not_objectsTo_unwiredIssues _ _ _)]
  have hwired : wiredName u ∈ r.inputs.map wiredName := List.mem_map_of_mem hu
  constructor
  · rintro ((⟨-, hname⟩ | hcount) | ⟨-, hnot⟩ | hcount | ⟨w, hw, hsource⟩)
    · exact .name hname
    · exact .declared (by omega)
    · exact .declared (by simp [List.count_eq_zero.2 hnot])
    · exact .rewired hcount
    · obtain ⟨hname, hfound⟩ := objectsTo_sourceIssues.1 hsource
      by_cases hcount : 2 ≤ (r.inputs.map wiredName).count (wiredName u)
      · exact .rewired hcount
      · obtain rfl := eq_of_count hu hw hname hcount
        rcases hfound with hempty | ⟨root, hroot, h⟩ | ⟨use, huse, h⟩
        · exact .empty (Path.parse_eq_empty_iff.2 hempty)
        · exact .source hroot h
        · exact .index huse h
  · rintro (hempty | ⟨hroot, h⟩ | ⟨huse, h⟩ | hcount | hcount | hname)
    · exact .inr (.inr (.inr ⟨u, hu, objectsTo_sourceIssues.2 ⟨rfl, .inl (Path.parse_eq_empty_iff.1 hempty)⟩⟩))
    · exact .inr (.inr (.inr ⟨u, hu, objectsTo_sourceIssues.2 ⟨rfl, .inr (.inl ⟨_, hroot, h⟩)⟩⟩))
    · exact .inr (.inr (.inr ⟨u, hu, objectsTo_sourceIssues.2 ⟨rfl, .inr (.inr ⟨_, huse, h⟩)⟩⟩))
    · exact .inr (.inr (.inl hcount))
    · by_cases hmem : wiredName u ∈ r.params.map paramName
      · have hpos := List.count_pos_iff.2 hmem
        exact .inl (.inr (by omega))
      · exact .inr (.inl ⟨hwired, hmem⟩)
    · by_cases hmem : wiredName u ∈ r.params.map paramName
      · exact .inl (.inl ⟨hmem, hname⟩)
      · exact .inr (.inl ⟨hwired, hmem⟩)

end Request

/-! ### Runs -/

/-- A wiring whose path cannot be read adds nothing. -/
theorem addInput_of_parse_error [Json.Codec] {w : Surroundings} {ctx : Formula.Context} {u : Wiring} {fault : PathFault}
    (h : Path.parse u.sourcePath = .error fault) : w.addInput ctx u = ctx := by
  rw [Surroundings.addInput, Surroundings.resolve, h]

/-- **Malformed wirings**: where the path of a wiring cannot be read, the report has an error about the input only for
its name, for a path that is empty, or for a forbidden source or an index in the path.  Every context of a stage is the
one without the wiring. -/
theorem validateLogic_malformed [Json.Codec] {r : Request} {u : Wiring} (hu : u ∈ r.inputs) {fault : PathFault}
    (hparse : Path.parse u.sourcePath = .error fault) :
    (ObjectsTo (validateLogic r).issues (wiredName u) ↔ r.Objects u) ∧
    ∀ (w : Surroundings) (before after : List Wiring),
      w.context (before ++ u :: after) = w.context (before ++ after) := by
  refine ⟨Request.objectsTo_issues_iff hu, fun w before after => ?_⟩
  rw [Surroundings.context, Surroundings.context, List.foldl_append, List.foldl_append, List.foldl_cons,
    addInput_of_parse_error hparse]

section

open Native

/-- A malformed path with an index that is none of the stages is reported for the index. -/
theorem validateLogic_malformed_index : Path.parse "items[3]..price" = .error .emptySegment ∧
    ObjectsTo (validateLogic (wiredTo "items[3]..price")).issues "price" ∧
    ∀ w : Surroundings, w.context [⟨"price", "items[3]..price"⟩] = w.context [] := by
  have hparse : Path.parse "items[3]..price" = .error .emptySegment := by decide +kernel
  have hname : wiredName ⟨"price", "items[3]..price"⟩ = "price" := by decide +kernel
  obtain ⟨hreport, hruns⟩ := validateLogic_malformed (r := wiredTo "items[3]..price") List.mem_cons_self hparse
  rw [hname] at hreport
  have huse : (⟨"items".toList, ['3'], false⟩ : IndexUse) ∈ indexUses (Text.trim "items[3]..price") := by
    decide +kernel
  exact ⟨hparse, hreport.2 (.index huse fun h => absurd h.1 (by decide)), fun w => hruns w [] []⟩

end

/-- A path with a fault, a report on a wiring to it without issues, and runs that go on without the wiring. -/
structure Unreported [Json.Codec] (text : String) (fault : PathFault) : Prop where
  malformed : Path.parse text = .error fault
  passed : (validateLogic (wiredTo text)).issues = []
  dropped : ∀ w : Surroundings, w.context (wiredTo text).inputs = w.context []

theorem unreported [Json.Codec] {text : String} {fault : PathFault} (hparse : Path.parse text = .error fault)
    (hreport : (validateLogic (wiredTo text)).issues = []) : Unreported text fault where
  malformed := hparse
  passed := hreport
  dropped w := by
    rw [wiredTo, Surroundings.context, List.foldl_cons, addInput_of_parse_error (u := ⟨"price", text⟩) hparse]
    rfl

open Native

/-- **Faults that go unreported**: all but the one of an empty path. -/
theorem validateLogic_unreported :
    Unreported "a..b" .emptySegment ∧ Unreported "a." .trailingPoint ∧ Unreported "[a]" .subscriptWithoutName ∧
    Unreported "a[b" .unclosedBracket ∧ Unreported "a[]" .emptySubscript ∧ Unreported "a]" .unexpectedBracket ∧
    Unreported "a[b]c" .missingPoint := by
  refine ⟨unreported ?_ ?_, unreported ?_ ?_, unreported ?_ ?_, unreported ?_ ?_, unreported ?_ ?_,
    unreported ?_ ?_, unreported ?_ ?_⟩ <;> decide +kernel

end Validation

end Costing
