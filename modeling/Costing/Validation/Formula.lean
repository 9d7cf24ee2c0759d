import Costing.Formula.Parser
import Costing.Formula.Typing
import Costing.Logic.Basic
import Costing.Stage.Alias
import Costing.Validation.Scan

/-!
# Validation — Formula

The check of one formula: what it must not read, its indices, its parentheses, its syntax, the names
it mentions and its types.  Each check lists the issues it finds; none hides those of another, except
that a text without a tree has neither names nor types.
-/

namespace Costing.Validation

open Costing.Formula

/-- What issues are reported about. -/
structure Subject where
  scope : Scope
  ref : Option String
deriving Repr, DecidableEq

namespace Subject

/-- An error about a subject. -/
def error (s : Subject) (code : IssueCode) (message : String) (hint : Option String := none) :
    Issue :=
  ⟨.error, s.scope, s.ref, code, message, hint⟩

/-- A warning about a subject. -/
def warning (s : Subject) (code : IssueCode) (message : String) : Issue :=
  ⟨.warning, s.scope, s.ref, code, message, none⟩

end Subject

/-- The forbidden names that a text mentions, in quotes or not. -/
def forbiddenIn (text : String) : List String :=
  forbiddenRoots.filter (mentionsWord text)

/-- One error for each forbidden name in a text. -/
def forbiddenIssues (s : Subject) (text : String) : List Issue :=
  (forbiddenIn text).map fun root =>
    s.error .forbiddenSource ("'" ++ root ++ "' is a forbidden source")
      (some "Read the resolved current offer instead of the raw offer list")

/-- The stage that a numeric index of `stages` addresses. -/
def IndexUse.stage? (use : IndexUse) : Option Nat :=
  (Number.readNat? use.digits).filter (· < Segment.indexBound)

/-- What is wrong with a numeric index: only stages up to the current one may be indexed. -/
def indexIssue? (s : Subject) (currentStage : Nat) (use : IndexUse) : Option Issue :=
  if use.owner == "stages".toList then
    if use.stage?.any (· ≤ currentStage) then none
    else some (s.error .futureStage
      (use.shown ++ " is not computed before stage " ++ toString currentStage))
  else some (s.error .forbiddenIndex ("Numeric index '" ++ use.shown ++ "' is not allowed")
    (some "Only prior stages may be indexed, as stages[N]"))

/-- The errors of the numeric indices in a text. -/
def indexIssues (s : Subject) (currentStage : Nat) (text : String) : List Issue :=
  (indexUses text).filterMap (indexIssue? s currentStage)

/-- Where a formula stands: the stage it belongs to and, for a variable of some logic, the names of
all variables and the place of its own among them. -/
structure Place where
  currentStage : Nat
  names : List String := []
  position : Option Nat := none
deriving Repr, DecidableEq

/-- Why a name cannot be read. -/
inductive NameFault where
  | ownName (name : String)
  | declaredLater (name : String)
  | futureStage (name : String) (stage currentStage : Nat)
  | unknown (name : String)
deriving Repr, DecidableEq

namespace NameFault

/-- The issue that a fault is. -/
def issue (s : Subject) : NameFault → Issue
  | ownName name => s.error .forwardReference ("'" ++ name ++ "' references itself") hint
  | declaredLater name =>
    s.error .forwardReference ("'" ++ name ++ "' is declared after this variable") hint
  | futureStage name stage currentStage =>
    s.error .futureStage ("'" ++ name ++ "' refers to stage " ++ toString stage ++
      ", which is not computed before stage " ++ toString currentStage)
  | unknown name => s.error .unknownIdentifier ("Unknown identifier '" ++ name ++ "'")
where
  hint : Option String :=
    some "A variable can only use inputs and variables declared before it"

end NameFault

/-- Whether a name belongs to the variable at a place or to one after it. -/
def Place.laterFault? (p : Place) (name : String) : Option NameFault :=
  match p.position, p.names.idxOf? name with
  | some position, some declared =>
    if declared = position then some (.ownName name)
    else if declared > position then some (.declaredLater name)
    else none
  | _, _ => none

/-- Whether a name that is no symbol is the result of an earlier stage. -/
def Place.aliasFault? (p : Place) (name : String) : Option NameFault :=
  match StageAlias.index? name with
  | some stage =>
    if stage ≤ p.currentStage then none else some (.futureStage name stage p.currentStage)
  | none => some (.unknown name)

/-- Why a name cannot be read at a place. -/
def Place.nameFault? (p : Place) (symbols : SymbolTable) (name : String) : Option NameFault :=
  if symbols.contains name then none else (p.laterFault? name).or (p.aliasFault? name)

/-- The errors of the names that an expression mentions; those in `forbidden` are reported already. -/
def nameIssues (s : Subject) (p : Place) (symbols : SymbolTable) (forbidden : List String)
    (e : Expr) : List Issue :=
  (e.identifiers.filter (!forbidden.contains ·)).filterMap fun name =>
    (p.nameFault? symbols name).map (·.issue s)

/-- The issue that a fault in types is. -/
def typeIssue (s : Subject) (f : TypeFault) : Issue :=
  ⟨f.severity, s.scope, s.ref, f.code, f.message, none⟩

/-- The issues of the types in an expression; unknown names are left to `nameIssues`. -/
def typeIssues (s : Subject) (faults : List TypeFault) : List Issue :=
  (faults.filter (·.code != .unknownIdentifier)).map (typeIssue s)

/-- The tree of a formula, or the issue that it has none. -/
def readChecked (s : Subject) (formula : String) : Except Issue Expr :=
  if parensBalanced formula then
    (parseFormula formula).mapError fun fault => s.error .syntaxFault fault.message
  else .error (s.error .syntaxFault "Unbalanced parentheses")

/-- The type of a formula and the issues of all checks. -/
def checkFormula (s : Subject) (p : Place) (symbols : SymbolTable) (formula : String) :
    ValueType × List Issue :=
  let outer := forbiddenIssues s formula ++ indexIssues s p.currentStage formula
  match readChecked s formula with
  | .error issue => (.unknown, outer ++ [issue])
  | .ok e =>
    let (type, faults) := infer symbols e
    (type, outer ++ nameIssues s p symbols (forbiddenIn formula) e ++ typeIssues s faults)

/-- The report on a formula that stands alone. -/
def validateFormula (formula : String) (symbols : SymbolTable) (currentStage : Nat) :
    List Issue :=
  let s : Subject := ⟨.global, none⟩
  Issue.canonical (checkFormula s { currentStage } symbols formula).2

end Costing.Validation
