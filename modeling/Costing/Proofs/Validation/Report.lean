import Costing.Validation.Logic

/-!
# Validation — what a report holds

A report holds an issue for every key that a check raised, and nothing that no check raised.

* `Issue.exists_mem_canonical`, `Issue.mem_of_mem_canonical`: putting issues in order drops repetitions
  only.
* `Request.checkIssues r i`: the issues raised by checking the variable at place `i`, against the symbols
  `Request.symbolsAt r i` of the inputs and the variables before it.
* `Request.mem_variables_issues`: the variables' part of a report is what checking each of them raises.
* `Request.hasErrors_eq`: a report has an error if and only if one was raised.
* `Request.exists_mem_issues`: every issue raised is in the report, up to its code and hint.
* `Request.contains_symbolsAt`: a variable sees the names of the inputs and of the variables before it.
* `forall_mem_checkFormula`, `Request.forall_mem_checkIssues`: what holds of the issues of each check holds of
  all that a formula, or a variable, raises.
* `Request.scope_of_mem_checkIssues`, `of_mem_outputIssues`: what is raised about variables and about results.
-/

namespace Costing

/-! ### Putting issues in order -/

namespace Issue

theorem mem_of_mem_firstsFrom {seen : List (Severity × Scope × Option String × String)}
    {issues : List Issue} {i : Issue} (h : i ∈ firstsFrom seen issues) : i ∈ issues := by
  induction issues generalizing seen with
  | nil => exact h
  | cons j rest ih =>
      rw [firstsFrom] at h
      split at h
      · exact List.mem_cons_of_mem _ (ih h)
      · rcases List.mem_cons.1 h with rfl | h
        · exact List.mem_cons_self
        · exact List.mem_cons_of_mem _ (ih h)

theorem key_not_mem_of_mem_firstsFrom {seen : List (Severity × Scope × Option String × String)}
    {issues : List Issue} {i : Issue} (h : i ∈ firstsFrom seen issues) : i.key ∉ seen := by
  induction issues generalizing seen with
  | nil => cases h
  | cons j rest ih =>
      rw [firstsFrom] at h
      split at h
      · exact ih h
      · next hj =>
          rcases List.mem_cons.1 h with rfl | h
          · exact hj
          · exact fun hmem => ih h (List.mem_cons_of_mem _ hmem)

theorem exists_mem_firstsFrom {seen : List (Severity × Scope × Option String × String)}
    {issues : List Issue} {i : Issue} (h : i ∈ issues) (hseen : i.key ∉ seen) :
    ∃ j ∈ firstsFrom seen issues, j.key = i.key := by
  induction issues generalizing seen with
  | nil => cases h
  | cons k rest ih =>
      rw [firstsFrom]
      by_cases hkey : k.key = i.key
      · rw [if_neg (hkey ▸ hseen)]
        exact ⟨k, List.mem_cons_self, hkey⟩
      · have hrest : i ∈ rest := by
          rcases List.mem_cons.1 h with rfl | h
          · exact absurd rfl hkey
          · exact h
        split
        · exact ih hrest hseen
        · have hnot : i.key ∉ k.key :: seen := by simp [hseen, Ne.symm hkey]
          obtain ⟨j, hj, hjk⟩ := ih hrest hnot
          exact ⟨j, List.mem_cons_of_mem _ hj, hjk⟩

/-- **Every issue is kept** up to its code and hint, which its key leaves out. -/
theorem exists_mem_canonical {issues : List Issue} {i : Issue} (h : i ∈ issues) :
    ∃ j ∈ canonical issues, j.key = i.key := by
  have hseen : i.key ∉ ([] : List (Severity × Scope × Option String × String)) := List.not_mem_nil
  obtain ⟨j, hj, hkey⟩ := exists_mem_firstsFrom h hseen
  exact ⟨j, List.mem_mergeSort.2 hj, hkey⟩

/-- **Nothing is added.** -/
theorem mem_of_mem_canonical {issues : List Issue} {i : Issue} (h : i ∈ canonical issues) : i ∈ issues :=
  mem_of_mem_firstsFrom (List.mem_mergeSort.1 h)

theorem isError_congr {i j : Issue} (h : i.key = j.key) : i.isError = j.isError := by
  have hseverity : i.severity = j.severity := congrArg Prod.fst h
  rw [isError, isError, hseverity]

/-- An error stays in a report, up to its code and hint. -/
theorem any_isError_canonical (issues : List Issue) : (canonical issues).any isError = issues.any isError := by
  refine Bool.eq_iff_iff.2 ?_
  rw [List.any_eq_true, List.any_eq_true]
  constructor
  · rintro ⟨issue, hissue, herror⟩
    exact ⟨issue, mem_of_mem_canonical hissue, herror⟩
  · rintro ⟨issue, hissue, herror⟩
    obtain ⟨kept, hkept, hkey⟩ := exists_mem_canonical hissue
    exact ⟨kept, hkept, (isError_congr hkey).trans herror⟩

theorem scope_congr {i j : Issue} (h : i.key = j.key) : i.scope = j.scope :=
  congrArg (·.2.1) h

theorem ref_congr {i j : Issue} (h : i.key = j.key) : i.ref = j.ref :=
  congrArg (·.2.2.1) h

theorem message_congr {i j : Issue} (h : i.key = j.key) : i.message = j.message :=
  congrArg (·.2.2.2) h

end Issue

/-! ### Symbol tables -/

namespace Formula.SymbolTable

/-- A name means a symbol if one has that name. -/
theorem contains_iff {t : SymbolTable} {name : String} :
    t.contains name ↔ ∃ s ∈ t.symbols, s.name = name := by
  simp [contains, get?]

@[simp] theorem not_contains_empty (name : String) : ¬ empty.contains name := by
  simp [contains_iff, empty]

@[simp] theorem contains_add {t : SymbolTable} {s : Symbol} {name : String} :
    (t.add s).contains name ↔ t.contains name ∨ s.name = name := by
  simp only [contains_iff, add, List.mem_append, List.mem_singleton]
  constructor
  · rintro ⟨u, hu | rfl, hname⟩
    · exact .inl ⟨u, hu, hname⟩
    · exact .inr hname
  · rintro (⟨u, hu, hname⟩ | hname)
    · exact ⟨u, .inl hu, hname⟩
    · exact ⟨s, .inr rfl, hname⟩

@[simp] theorem contains_addInput {t : SymbolTable} {input name : String} {declared inferred : Option ValueType} :
    (t.addInput input declared inferred).contains name ↔ t.contains name ∨ input = name :=
  contains_add

@[simp] theorem contains_addVar {t : SymbolTable} {var name : String} {type : ValueType} :
    (t.addVar var type).contains name ↔ t.contains name ∨ var = name :=
  contains_add

end Formula.SymbolTable

namespace Validation

open Costing.Formula (SymbolTable)

/-! ### The symbols of the inputs -/

theorem contains_foldl_params {inputs : List Wiring} {name : String} (params : List Param) (t : SymbolTable) :
    (params.foldl (fun table p => table.addInput (paramName p) (declaredType? p)
      ((wiredPath? inputs (paramName p)).map typeOfPath)) t).contains name ↔
      t.contains name ∨ name ∈ params.map paramName := by
  induction params generalizing t with
  | nil => simp
  | cons p rest ih =>
      rw [List.foldl_cons, ih, SymbolTable.contains_addInput, List.map_cons, List.mem_cons, eq_comm (a := name),
        or_assoc]

theorem contains_addWiredSymbols {name : String} (inputs : List Wiring) (t : SymbolTable) :
    (addWiredSymbols t inputs).contains name ↔ t.contains name ∨ name ∈ inputs.map wiredName := by
  induction inputs generalizing t with
  | nil => simp [addWiredSymbols]
  | cons w rest ih =>
      rw [addWiredSymbols, List.foldl_cons]
      refine (ih _).trans ?_
      dsimp only
      split
      · next hw =>
          -- the name is there already, and so is another name equal to it
          have hsame : name = wiredName w → t.contains name := fun h => h ▸ hw
          rw [List.map_cons, List.mem_cons, ← or_assoc, or_iff_left_of_imp hsame]
      · rw [SymbolTable.contains_addInput, List.map_cons, List.mem_cons, eq_comm (a := name), or_assoc]

/-- The inputs are the declared params and the wired ones. -/
theorem contains_inputSymbols {r : Request} {name : String} :
    (inputSymbols r).contains name ↔ name ∈ r.params.map paramName ∨ name ∈ r.inputs.map wiredName := by
  rw [inputSymbols, contains_addWiredSymbols, paramSymbols, contains_foldl_params]
  simp

/-! ### One variable after the other -/

/-- The issues raised by checking a variable, given the names of all variables and of those before it and
the symbols that it sees. -/
def checkIssues (currentStage : Nat) (names earlier : List String) (symbols : SymbolTable) (v : Variable) :
    List Issue :=
  variableNameIssues earlier.length (variableName v) ++ takenNameIssues earlier symbols (variableName v) ++
    (checkBody ⟨currentStage, names, some earlier.length⟩ symbols (variableName v) v.body).2

/-- The symbols after a variable. -/
def symbolsAfter (currentStage : Nat) (names earlier : List String) (symbols : SymbolTable) (v : Variable) :
    SymbolTable :=
  if (variableName v).isEmpty then symbols
  else symbols.addVar (variableName v)
    (checkBody ⟨currentStage, names, some earlier.length⟩ symbols (variableName v) v.body).1

section Variables

variable {currentStage : Nat} {names : List String}

theorem checkVariables_cons (earlier : List String) (symbols : SymbolTable) (v : Variable) (rest : List Variable) :
    checkVariables currentStage names earlier symbols (v :: rest) =
      let report := checkVariables currentStage names (variableName v :: earlier)
        (symbolsAfter currentStage names earlier symbols v) rest
      ⟨report.symbols,
        (variableName v, (checkBody ⟨currentStage, names, some earlier.length⟩ symbols (variableName v)
          v.body).1) :: report.types,
        checkIssues currentStage names earlier symbols v ++ report.issues⟩ :=
  rfl

/-- The variables of two lists are checked one list after the other. -/
theorem checkVariables_append (before rest : List Variable) (earlier : List String) (symbols : SymbolTable) :
    (checkVariables currentStage names earlier symbols (before ++ rest)).issues =
      (checkVariables currentStage names earlier symbols before).issues ++
        (checkVariables currentStage names ((before.map variableName).reverse ++ earlier)
          (checkVariables currentStage names earlier symbols before).symbols rest).issues := by
  induction before generalizing earlier symbols with
  | nil => rfl
  | cons v before ih =>
      rw [List.cons_append, checkVariables_cons, checkVariables_cons]
      dsimp only
      rw [ih, List.append_assoc, List.map_cons, List.reverse_cons, List.append_assoc]
      rfl

/-- Variables add their names to the symbols, the empty name apart. -/
theorem contains_checkVariables {name : String} (hname : name ≠ "") (vars : List Variable)
    (earlier : List String) (symbols : SymbolTable) :
    (checkVariables currentStage names earlier symbols vars).symbols.contains name ↔
      symbols.contains name ∨ name ∈ vars.map variableName := by
  induction vars generalizing earlier symbols with
  | nil => simp [checkVariables]
  | cons v rest ih =>
      rw [checkVariables_cons]
      refine (ih _ _).trans ?_
      rw [symbolsAfter, List.map_cons, List.mem_cons]
      split
      · next hempty =>
          have hne : name ≠ variableName v := by
            rintro rfl
            exact hname (String.isEmpty_iff.1 hempty)
          simp [hne]
      · rw [SymbolTable.contains_addVar, eq_comm (a := name), or_assoc]

end Variables

namespace Request

/-- The names of the variables. -/
def names (r : Request) : List String :=
  r.logic.vars.map variableName

/-- The symbols that the variable at a place is checked against. -/
def symbolsAt (r : Request) (i : Nat) : SymbolTable :=
  (checkVariables r.currentStage r.names [] (inputSymbols r) (r.logic.vars.take i)).symbols

/-- The issues raised by checking the variable at a place. -/
def checkIssues (r : Request) (i : Nat) : List Issue :=
  match r.logic.vars[i]? with
  | some v => Validation.checkIssues r.currentStage r.names (r.names.take i).reverse (r.symbolsAt i) v
  | none => []

/-- What checking all variables gives. -/
def checkedVariables (r : Request) : VariableReport :=
  checkVariables r.currentStage r.names [] (inputSymbols r) r.logic.vars

/-- All issues as they are raised. -/
def raised (r : Request) : List Issue :=
  inputIssues r ++ r.checkedVariables.issues ++
    (r.outputs.map (outputIssues r.checkedVariables.symbols)).getD []

/-- A report has an error if and only if one was raised. -/
theorem hasErrors_eq (r : Request) : (validateLogic r).hasErrors = r.raised.any Issue.isError :=
  Issue.any_isError_canonical r.raised

variable {r : Request} {i : Nat}

/-- A variable is checked after those before it. -/
theorem mem_variables_issues_of_split {before after : List Variable} {v : Variable} {issue : Issue}
    (hvars : r.logic.vars = before ++ v :: after) (h : issue ∈ r.checkIssues before.length) :
    issue ∈ r.checkedVariables.issues := by
  have hget : r.logic.vars[before.length]? = some v := by simp [hvars]
  have hnames : r.names.take before.length = before.map variableName := by simp [names, hvars]
  have hsymbols : r.symbolsAt before.length =
      (checkVariables r.currentStage r.names [] (inputSymbols r) before).symbols := by
    rw [symbolsAt, hvars, List.take_left]
  rw [checkIssues, hget] at h
  dsimp only at h
  rw [hnames, hsymbols] at h
  rw [checkedVariables, hvars, checkVariables_append, checkVariables_cons, List.append_nil]
  exact List.mem_append_right _ (List.mem_append_left _ h)

/-- The part of the variables is what checking each of them raises. -/
theorem mem_variables_issues {issue : Issue} :
    issue ∈ r.checkedVariables.issues ↔ ∃ i, issue ∈ r.checkIssues i := by
  constructor
  · intro h
    -- every initial part of the variables is such
    have hpart : ∀ n, issue ∈ (checkVariables r.currentStage r.names [] (inputSymbols r)
        (r.logic.vars.take n)).issues → ∃ i, issue ∈ r.checkIssues i := by
      intro n
      induction n with
      | zero => simp [checkVariables]
      | succ n ih =>
          rw [List.take_add_one, checkVariables_append]
          intro h
          rcases List.mem_append.1 h with h | h
          · exact ih h
          · refine ⟨n, ?_⟩
            cases hv : r.logic.vars[n]? with
            | none => simp [hv, checkVariables] at h
            | some v =>
                rw [hv, Option.toList_some, checkVariables_cons] at h
                rw [checkIssues, hv]
                simpa [checkVariables, names, symbolsAt] using h
    exact hpart r.logic.vars.length (by rwa [List.take_length])
  · rintro ⟨i, h⟩
    cases hv : r.logic.vars[i]? with
    | none => simp [checkIssues, hv] at h
    | some v =>
        obtain ⟨hi, hget⟩ := List.getElem?_eq_some_iff.1 hv
        have hsplit : r.logic.vars = r.logic.vars.take i ++ v :: r.logic.vars.drop (i + 1) := by
          rw [← hget, List.getElem_cons_drop, List.take_append_drop]
        refine mem_variables_issues_of_split hsplit ?_
        rwa [List.length_take, Nat.min_eq_left (Nat.le_of_lt hi)]

/-- Whatever checking a variable raises is in the report, up to its code and hint. -/
theorem exists_mem_issues {issue : Issue} (h : issue ∈ r.checkIssues i) :
    ∃ kept ∈ (validateLogic r).issues, kept.key = issue.key := by
  have hraised : issue ∈ r.raised :=
    List.mem_append_left _ (List.mem_append_right _ (mem_variables_issues.2 ⟨i, h⟩))
  exact Issue.exists_mem_canonical hraised

/-- A report without errors comes from checks without errors. -/
theorem isError_eq_false_of_mem (hr : (validateLogic r).hasErrors = false) {issue : Issue}
    (h : issue ∈ r.checkIssues i) : issue.isError = false := by
  obtain ⟨kept, hkept, hkey⟩ := exists_mem_issues h
  rw [← Issue.isError_congr hkey]
  exact Bool.eq_false_iff.2 (List.any_eq_false.1 hr kept hkept)

/-- The place of a variable. -/
def place (r : Request) (i : Nat) : Place :=
  ⟨r.currentStage, r.names, some i⟩

/-- What checking a variable raises: issues of its name, and those of what defines it. -/
theorem checkIssues_eq {v : Variable} (hv : r.logic.vars[i]? = some v) :
    r.checkIssues i = variableNameIssues i (variableName v) ++
      takenNameIssues (r.names.take i).reverse (r.symbolsAt i) (variableName v) ++
      (checkBody (r.place i) (r.symbolsAt i) (variableName v) v.body).2 := by
  obtain ⟨hi, -⟩ := List.getElem?_eq_some_iff.1 hv
  have hlength : (r.names.take i).reverse.length = i := by
    simp [names, Nat.min_eq_left (Nat.le_of_lt hi)]
  rw [checkIssues, hv]
  dsimp only
  rw [Validation.checkIssues, hlength]
  rfl

/-- There is a variable where something is raised. -/
theorem exists_variable {issue : Issue} (h : issue ∈ r.checkIssues i) : ∃ v, r.logic.vars[i]? = some v := by
  unfold checkIssues at h
  split at h
  · exact ⟨_, ‹_›⟩
  · cases h

theorem checkIssues_of_formula {v : Variable} {formula : String} (hv : r.logic.vars[i]? = some v)
    (hbody : v.body = .formula formula) :
    r.checkIssues i = variableNameIssues i (variableName v) ++
      takenNameIssues (r.names.take i).reverse (r.symbolsAt i) (variableName v) ++
      (checkFormula (variableSubject (variableName v)) (r.place i) (r.symbolsAt i) formula).2 := by
  rw [checkIssues_eq hv, hbody]
  rfl

/-- The issues of a formula are among those of its variable. -/
theorem mem_checkIssues_of_formula {v : Variable} {formula : String} {issue : Issue}
    (hv : r.logic.vars[i]? = some v) (hbody : v.body = .formula formula)
    (h : issue ∈ (checkFormula (variableSubject (variableName v)) (r.place i) (r.symbolsAt i) formula).2) :
    issue ∈ r.checkIssues i := by
  rw [checkIssues_of_formula hv hbody]
  exact List.mem_append_right _ h

/-- A variable sees the inputs and the variables before it. -/
theorem contains_symbolsAt {name : String} (hname : name ≠ "") :
    (r.symbolsAt i).contains name ↔
      name ∈ r.params.map paramName ∨ name ∈ r.inputs.map wiredName ∨ ∃ j < i, r.names[j]? = some name := by
  have htake : name ∈ (r.logic.vars.take i).map variableName ↔ ∃ j < i, r.names[j]? = some name := by
    rw [List.map_take, List.mem_iff_getElem?]
    simp [List.getElem?_take, names]
  rw [symbolsAt, contains_checkVariables hname, contains_inputSymbols, or_assoc, htake]

end Request

/-! ### What issues are about -/

/-- A formula is without a tree because of its parentheses or of a fault. -/
theorem of_readChecked_error {s : Subject} {formula : String} {issue : Issue}
    (h : readChecked s formula = .error issue) : ∃ message, issue = s.error .syntaxFault message ∧
      (message = "Unbalanced parentheses" ∨
        ∃ fault, Formula.parseFormula formula = .error fault ∧ message = fault.message) := by
  unfold readChecked at h
  split at h
  · cases hparse : Formula.parseFormula formula with
    | error fault => rw [hparse] at h; cases h; exact ⟨_, rfl, .inr ⟨fault, rfl, rfl⟩⟩
    | ok e => rw [hparse] at h; cases h
  · cases h
    exact ⟨_, rfl, .inl rfl⟩

theorem parseFormula_of_readChecked {s : Subject} {formula : String} {e : Formula.Expr}
    (h : readChecked s formula = .ok e) : Formula.parseFormula formula = .ok e := by
  unfold readChecked at h
  split at h
  · cases hparse : Formula.parseFormula formula with
    | error fault => rw [hparse] at h; cases h
    | ok e' => rw [hparse] at h; cases h; rfl
  · cases h

/-- What holds of the issues of each check holds of all issues of a formula. -/
theorem forall_mem_checkFormula {Q : Issue → Prop} {s : Subject} {p : Place} {symbols : SymbolTable}
    {formula : String} (hforbidden : ∀ issue ∈ forbiddenIssues s formula, Q issue)
    (hindex : ∀ use issue, indexIssue? s p.currentStage use = some issue → Q issue)
    (hread : ∀ issue, readChecked s formula = .error issue → Q issue) (hname : ∀ f : NameFault, Q (f.issue s))
    (htype : ∀ fault, Q (typeIssue s fault)) : ∀ issue ∈ (checkFormula s p symbols formula).2, Q issue := by
  have houter : ∀ issue ∈ forbiddenIssues s formula ++ indexIssues s p.currentStage formula, Q issue := by
    refine List.forall_mem_append.2 ⟨hforbidden, fun issue h => ?_⟩
    obtain ⟨use, -, huse⟩ := List.mem_filterMap.1 h
    exact hindex use issue huse
  unfold checkFormula
  cases hchecked : readChecked s formula with
  | error issue => exact List.forall_mem_append.2 ⟨houter, by simpa using hread issue hchecked⟩
  | ok e =>
      refine List.forall_mem_append.2 ⟨List.forall_mem_append.2 ⟨houter, fun issue h => ?_⟩, fun issue h => ?_⟩
      · obtain ⟨name, -, h⟩ := List.mem_filterMap.1 h
        obtain ⟨fault, -, rfl⟩ := Option.map_eq_some_iff.1 h
        exact hname fault
      · obtain ⟨fault, -, rfl⟩ := List.mem_map.1 h
        exact htype fault

theorem scope_of_mem_checkFormula {s : Subject} {p : Place} {symbols : SymbolTable} {formula : String} :
    ∀ issue ∈ (checkFormula s p symbols formula).2, issue.scope = s.scope := by
  apply forall_mem_checkFormula
  case hforbidden => exact List.forall_mem_map.2 fun _ _ => rfl
  case hindex =>
    intro use issue h
    unfold indexIssue? at h
    split at h
    · split at h <;> cases h
      rfl
    · cases h
      rfl
  case hread =>
    intro issue h
    obtain ⟨message, rfl, -⟩ := of_readChecked_error h
    rfl
  case hname => exact fun f => by cases f <;> rfl
  case htype => exact fun _ => rfl

/-- The issues of a variable itself are about it, and of the kind for definitions. -/
theorem of_mem_ownIssues {position : Nat} {earlier : List String} {symbols : SymbolTable} {name : String} :
    ∀ issue ∈ variableNameIssues position name ++ takenNameIssues earlier symbols name,
      issue.scope = .var ∧ issue.code = .definition := by
  refine List.forall_mem_append.2 ⟨?_, ?_⟩
  · unfold variableNameIssues
    split
    · simp [Subject.error]
    · split <;> simp [Subject.error, variableSubject]
  · unfold takenNameIssues
    dsimp only
    split
    · simp [Subject.error, variableSubject]
    · split <;> simp [Subject.warning, variableSubject]

/-- What holds of the issues of a variable itself and of those of its formula holds of all it raises. -/
theorem Request.forall_mem_checkIssues {Q : Issue → Prop} {r : Request} {i : Nat}
    (hown : ∀ position earlier symbols name,
      ∀ issue ∈ variableNameIssues position name ++ takenNameIssues earlier symbols name, Q issue)
    (hempty : ∀ p symbols name, ∀ issue ∈ (checkBody p symbols name .empty).2, Q issue)
    (hformula : ∀ p symbols name formula, ∀ issue ∈ (checkFormula (variableSubject name) p symbols formula).2,
      Q issue) : ∀ issue ∈ r.checkIssues i, Q issue := by
  intro issue h
  obtain ⟨v, hv⟩ := exists_variable h
  rw [checkIssues_eq hv] at h
  rcases List.mem_append.1 h with h | h
  · exact hown _ _ _ _ issue h
  · cases hbody : v.body with
    | formula text => rw [hbody] at h; exact hformula _ _ _ _ issue h
    | value x => rw [hbody] at h; cases h
    | empty => rw [hbody] at h; exact hempty _ _ _ issue h

theorem Request.scope_of_mem_checkIssues {r : Request} {i : Nat} {issue : Issue} (h : issue ∈ r.checkIssues i) :
    issue.scope = .var :=
  forall_mem_checkIssues (fun _ _ _ _ issue hown => (of_mem_ownIssues issue hown).1)
    (fun _ _ _ => List.forall_mem_singleton.2 rfl) (fun _ _ _ _ => scope_of_mem_checkFormula) issue h

theorem of_mem_mappingIssues {symbols : SymbolTable} (earlier : List String) (outputs : List OutputMapping) :
    ∀ issue ∈ mappingIssues symbols earlier outputs, issue.scope = .result ∧ issue.code = .output := by
  induction outputs generalizing earlier with
  | nil => exact List.forall_mem_nil _
  | cons m rest ih =>
      rw [mappingIssues, List.forall_mem_append, List.forall_mem_append]
      refine ⟨⟨?_, ?_⟩, ih _⟩
      · unfold resultKeyIssues
        split
        · split <;> simp [Subject.error, resultSubject]
        · simp [Subject.error, resultSubject]
      · unfold resultSourceIssues
        dsimp only
        split
        · simp [Subject.error, resultSubject]
        · split <;> simp [Subject.error, resultSubject]

/-- The issues of the mapping of results are about results, and of the kind for outputs. -/
theorem of_mem_outputIssues {symbols : SymbolTable} {outputs : List OutputMapping} :
    ∀ issue ∈ outputIssues symbols outputs, issue.scope = .result ∧ issue.code = .output := by
  refine List.forall_mem_append.2 ⟨of_mem_mappingIssues [] outputs, fun issue h => ?_⟩
  obtain ⟨result, -, rfl⟩ := List.mem_map.1 h
  exact ⟨rfl, rfl⟩

end Validation

end Costing
