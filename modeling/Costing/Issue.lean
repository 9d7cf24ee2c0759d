/-!
# Issue

What checks report.  `Issue.canonical` keeps the first of issues that say the same and puts the
graver ones first.
-/

namespace Costing

/-- How grave an issue is; warnings never stop anything. -/
inductive Severity where
  | error
  | warning
deriving Repr, DecidableEq

/-- What an issue is about. -/
inductive Scope where
  | input
  | var
  | result
  | global
deriving Repr, DecidableEq

/-- The kinds of issues. -/
inductive IssueCode where
  | forbiddenSource
  | forbiddenIndex
  | futureStage
  | syntaxFault
  | unknownIdentifier
  | forwardReference
  | typeMismatch
  | unknownFunction
  | argumentCount
  | definition
  | wiring
  | output
deriving Repr, DecidableEq

/-- How a severity is written. -/
def Severity.name : Severity → String
  | .error => "error"
  | .warning => "warning"

/-- How a scope is written. -/
def Scope.name : Scope → String
  | .input => "input"
  | .var => "var"
  | .result => "result"
  | .global => "global"

namespace IssueCode

/-- All kinds. -/
def all : List IssueCode :=
  [forbiddenSource, forbiddenIndex, futureStage, syntaxFault, unknownIdentifier,
    forwardReference, typeMismatch, unknownFunction, argumentCount, definition, wiring, output]

/-- How a kind is written. -/
def name : IssueCode → String
  | forbiddenSource => "forbidden-source"
  | forbiddenIndex => "forbidden-index"
  | futureStage => "future-stage"
  | syntaxFault => "syntax"
  | unknownIdentifier => "unknown-identifier"
  | forwardReference => "forward-reference"
  | typeMismatch => "type-mismatch"
  | unknownFunction => "unknown-function"
  | argumentCount => "argument-count"
  | definition => "definition"
  | wiring => "wiring"
  | output => "output"

end IssueCode

/-- A finding of a check; `ref` names the input, variable or result it is about. -/
structure Issue where
  severity : Severity
  scope : Scope
  ref : Option String
  code : IssueCode
  message : String
  hint : Option String := none
deriving Repr, DecidableEq

namespace Issue

/-- Whether an issue stops. -/
def isError (i : Issue) : Bool :=
  i.severity == .error

/-- What issues that say the same agree on. -/
def key (i : Issue) : Severity × Scope × Option String × String :=
  (i.severity, i.scope, i.ref, i.message)

/-- The place of an issue in a report: forbidden sources, syntax, unknown names, other errors,
warnings. -/
def priority (i : Issue) : Nat :=
  match i.severity, i.code with
  | .warning, _ => 4
  | .error, .forbiddenSource => 0
  | .error, .syntaxFault => 1
  | .error, .unknownIdentifier | .error, .forwardReference => 2
  | .error, _ => 3

/-- An issue on one line. -/
def text (i : Issue) : String :=
  let ref := (i.ref.map (" " ++ ·)).getD ""
  let hint := (i.hint.map fun hint => " (hint: " ++ hint ++ ")").getD ""
  i.severity.name ++ " [" ++ i.scope.name ++ ref ++ "] " ++ i.code.name ++ ": " ++ i.message ++ hint

/-- The issues whose key is neither in `seen` nor that of an earlier one. -/
def firstsFrom (seen : List (Severity × Scope × Option String × String)) : List Issue → List Issue
  | [] => []
  | i :: rest =>
    if i.key ∈ seen then firstsFrom seen rest else i :: firstsFrom (i.key :: seen) rest

/-- The first of the issues with each key. -/
def firsts (issues : List Issue) : List Issue :=
  firstsFrom [] issues

/-- The issues of a report: the first with each key, by priority, otherwise in the given order. -/
def canonical (issues : List Issue) : List Issue :=
  (firsts issues).mergeSort fun a b => a.priority ≤ b.priority

end Issue

end Costing
