import Costing.Validation.Formula
import Costing.Validation.Name

/-!
# Validation — Logic

The check of a calculator's logic as one stage uses it: params and wirings, variables in order, and
the mapping of results.  Every formula is checked against the inputs and the variables before it.
-/

namespace Costing.Validation

open Costing.Formula (ValueType SymbolTable Symbol SymbolKind)

/-- What a stage's logic is checked with; without outputs the results are not checked. -/
structure Request where
  params : List Param
  inputs : List Wiring
  logic : Logic
  outputs : Option (List OutputMapping)
  currentStage : Nat
deriving Repr

/-- What a check of logic finds. -/
structure Report where
  issues : List Issue
  /-- The inputs, then the variables. -/
  symbols : SymbolTable
  /-- The variables in order with their types. -/
  varTypes : List (String × ValueType)
deriving Repr

namespace Report

/-- The issues that stop. -/
def errors (r : Report) : List Issue := r.issues.filter Issue.isError

/-- The issues that do not. -/
def warnings (r : Report) : List Issue := r.issues.filter (!·.isError)

/-- Whether there is an issue that stops. -/
def hasErrors (r : Report) : Bool := r.issues.any Issue.isError

end Report

/-- The name of a param without blanks around it. -/
def paramName (p : Param) : String := Text.trim p.name

/-- The param of a wiring without blanks around it. -/
def wiredName (w : Wiring) : String := Text.trim w.paramName

/-- The name of a variable without blanks around it. -/
def variableName (v : Variable) : String := Text.trim v.name

/-- An input as the subject of issues. -/
def inputSubject (name : String) : Subject := ⟨.input, some name⟩

/-- A variable as the subject of issues. -/
def variableSubject (name : String) : Subject := ⟨.var, some name⟩

/-- A result as the subject of issues. -/
def resultSubject (key : String) : Subject := ⟨.result, some key⟩

/-! ### Inputs -/

/-- The issues of declarations, `earlier` being the names declared before. -/
def paramIssues (earlier : List String) : List Param → List Issue
  | [] => []
  | p :: rest =>
    let name := paramName p
    let s := inputSubject name
    (if isValidName name then []
      else [s.error .definition ("'" ++ name ++ "' is not a valid param name")]) ++
    (if earlier.contains name then
      [s.error .definition ("Param '" ++ name ++ "' is declared more than once")] else []) ++
    paramIssues (name :: earlier) rest

/-- The issues of the path of a wiring. -/
def sourceIssues (currentStage : Nat) (name path : String) : List Issue :=
  let s := inputSubject name
  if path.isEmpty then [s.error .wiring ("Input '" ++ name ++ "' has no source path")]
  else forbiddenIssues s path ++ indexIssues s currentStage path

/-- The issues of wirings, `earlier` being the names wired before. -/
def wiringIssues (declared : List String) (currentStage : Nat) (earlier : List String) :
    List Wiring → List Issue
  | [] => []
  | w :: rest =>
    let name := wiredName w
    let s := inputSubject name
    (if earlier.contains name then
      [s.error .wiring ("Input '" ++ name ++ "' is wired more than once")] else []) ++
    (if declared.contains name then []
      else [s.error .wiring ("Input '" ++ name ++ "' is wired but not declared as a param")
        (some "Declare the param on the calculator settings")]) ++
    sourceIssues currentStage name (Text.trim w.sourcePath) ++
    wiringIssues declared currentStage (name :: earlier) rest

/-- The path that a param is wired to: that of its last wiring. -/
def wiredPath? (inputs : List Wiring) (name : String) : Option String :=
  (inputs.reverse.find? (wiredName · == name)).map (Text.trim ·.sourcePath)

/-- The warnings of params without a wiring. -/
def unwiredIssues (inputs : List Wiring) (params : List Param) : List Issue :=
  params.filterMap fun p =>
    let name := paramName p
    if (wiredPath? inputs name).isSome then none
    else some ((inputSubject name).warning .wiring
      ("Param '" ++ name ++ "' is not wired to any source"))

/-- The type that a param is declared with, if the declaration names one. -/
def declaredType? (p : Param) : Option ValueType :=
  (p.declaredType.map ValueType.ofDeclared).filter (· != .unknown)

/-- The symbols of params. -/
def paramSymbols (inputs : List Wiring) (params : List Param) : SymbolTable :=
  params.foldl (fun table p =>
    let name := paramName p
    table.addInput name (declaredType? p) ((wiredPath? inputs name).map typeOfPath)) .empty

/-- Adds the inputs that are wired without being declared; they can be read all the same. -/
def addWiredSymbols (table : SymbolTable) (inputs : List Wiring) : SymbolTable :=
  inputs.foldl (fun table w =>
    let name := wiredName w
    if table.contains name then table
    else table.addInput name none (some (typeOfPath w.sourcePath))) table

/-- The symbols of all inputs. -/
def inputSymbols (r : Request) : SymbolTable :=
  addWiredSymbols (paramSymbols r.inputs r.params) r.inputs

/-- The issues of params and wirings. -/
def inputIssues (r : Request) : List Issue :=
  paramIssues [] r.params ++
    wiringIssues (r.params.map paramName) r.currentStage [] r.inputs ++
    unwiredIssues r.inputs r.params

/-! ### Variables -/

/-- The issues of the name of the variable at a place. -/
def variableNameIssues (position : Nat) (name : String) : List Issue :=
  if name.isEmpty then
    [(⟨.var, none⟩ : Subject).error .definition
      ("Variable #" ++ toString (position + 1) ++ " has no name")]
  else if isValidName name then []
  else
    [(variableSubject name).error .definition ("'" ++ name ++ "' is not a valid variable name")
      (some "Use letters, digits and underscores, starting with a letter")]

/-- The issues of a variable whose name is taken. -/
def takenNameIssues (earlier : List String) (symbols : SymbolTable) (name : String) :
    List Issue :=
  let s := variableSubject name
  if !name.isEmpty && earlier.contains name then
    [s.error .definition ("Variable '" ++ name ++ "' is declared more than once")]
  else if (symbols.get? name).any (·.kind == .input) then
    [s.warning .definition ("Variable '" ++ name ++ "' shadows the input of the same name")]
  else []

/-- The type of a variable and the issues of what defines it. -/
def checkBody (p : Place) (symbols : SymbolTable) (name : String) (body : VariableBody) :
    ValueType × List Issue :=
  let s := variableSubject name
  match body with
  | .empty =>
    (.unknown,
      [s.error .definition ("Variable '" ++ name ++ "' has neither a formula nor a value")])
  | .value v => (.ofValue v, [])
  | .formula text => checkFormula s p symbols text

/-- What the check of variables finds. -/
structure VariableReport where
  symbols : SymbolTable
  types : List (String × ValueType)
  issues : List Issue

/-- Checks variables in order, given the names of all and of those before. -/
def checkVariables (currentStage : Nat) (names earlier : List String) (symbols : SymbolTable) :
    List Variable → VariableReport
  | [] => ⟨symbols, [], []⟩
  | v :: rest =>
    let name := variableName v
    let place : Place := ⟨currentStage, names, some earlier.length⟩
    let (type, found) := checkBody place symbols name v.body
    let own := variableNameIssues earlier.length name ++ takenNameIssues earlier symbols name ++ found
    let symbols := if name.isEmpty then symbols else symbols.addVar name type
    let report := checkVariables currentStage names (name :: earlier) symbols rest
    ⟨report.symbols, (name, type) :: report.types, own ++ report.issues⟩

/-! ### Results -/

/-- The issues of the key of a mapping, `earlier` being the names of the results mapped before. -/
def resultKeyIssues (earlier : List String) (key : String) : List Issue :=
  let s := resultSubject key
  match ResultKey.parse key with
  | .ok parsed =>
    if earlier.contains parsed.name then
      [s.error .output ("Result '" ++ parsed.name ++ "' is mapped more than once")]
    else []
  | .error fault =>
    [s.error .output fault.message
      (some ("Use width, length, height, weight, purchasingPrice, basePrice or slug|Title"))]

/-- The issues of the source of a mapping. -/
def resultSourceIssues (symbols : SymbolTable) (key source : String) : List Issue :=
  let s := resultSubject key
  if source.isEmpty then [s.error .output ("Result '" ++ key ++ "' has no source")]
  else if symbols.contains source then []
  else
    [s.error .output ("Result '" ++ key ++ "' references unknown source '" ++ source ++ "'")]

/-- The name of the result that a mapping is stored under. -/
def mappedName? (m : OutputMapping) : Option String :=
  (ResultKey.parse (Text.trim m.key)).toOption.map ResultKey.name

/-- The issues of mappings, `earlier` being the names of the results mapped before. -/
def mappingIssues (symbols : SymbolTable) (earlier : List String) : List OutputMapping → List Issue
  | [] => []
  | m :: rest =>
    let key := Text.trim m.key
    resultKeyIssues earlier key ++ resultSourceIssues symbols key (Text.trim m.sourceRef) ++
      mappingIssues symbols ((mappedName? m).toList ++ earlier) rest

/-- The warnings of required results that nothing is mapped to. -/
def unmappedIssues (outputs : List OutputMapping) : List Issue :=
  let mapped := outputs.filterMap mappedName?
  (RequiredResult.all.filter fun r => !mapped.contains r.name).map fun r =>
    (resultSubject r.name).warning .output ("Required result '" ++ r.name ++ "' is not mapped")

/-- The issues of the mapping of results. -/
def outputIssues (symbols : SymbolTable) (outputs : List OutputMapping) : List Issue :=
  mappingIssues symbols [] outputs ++ unmappedIssues outputs

/-- The report on the logic of one stage. -/
def validateLogic (r : Request) : Report :=
  let names := r.logic.vars.map variableName
  let vars := checkVariables r.currentStage names [] (inputSymbols r) r.logic.vars
  let results := (r.outputs.map (outputIssues vars.symbols)).getD []
  { issues := Issue.canonical (inputIssues r ++ vars.issues ++ results)
    symbols := vars.symbols
    varTypes := vars.types }

end Costing.Validation
