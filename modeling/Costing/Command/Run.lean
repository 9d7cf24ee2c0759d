import Costing.Command.Arguments
import Costing.Cost.Document
import Costing.Formula.Eval
import Costing.Native
import Costing.Validation.Logic

/-!
# Command — Run

What commands answer.  A command reads files by a function that is given to it and answers with texts,
an exit code and perhaps a file to be written; nothing here touches the world.  From this layer on the
platform is the native one.
-/

namespace Costing

attribute [instance] Native.platform

/-- Why a command fails. -/
inductive CommandFault where
  | unreadable (path : String)
  | unwritable (path : String)
  | context
  | formula
  | evaluation
  | logicDocument (path : String)
  | invalidLogic (path : String)
  | request (path : String)
  | calculation
deriving Repr, DecidableEq

/-- The wording of a fault. -/
def CommandFault.message : CommandFault → String
  | .unreadable path => "Failed to read '" ++ path ++ "'"
  | .unwritable path => "Failed to write '" ++ path ++ "'"
  | .context => "Context must be a JSON object"
  | .formula => "Failed to parse formula"
  | .evaluation => "Failed to evaluate formula"
  | .logicDocument path => "Invalid logic document '" ++ path ++ "'"
  | .invalidLogic path => "Logic in '" ++ path ++ "' is invalid"
  | .request path => "Invalid calculation request '" ++ path ++ "'"
  | .calculation => "Failed to calculate offer"

/-- What a command prints, and its exit code. -/
structure Reply where
  output : String := ""
  errors : String := ""
  code : Nat := 0
deriving Repr, DecidableEq

/-- A file to be written. -/
structure Delivery where
  path : String
  text : String
deriving Repr, DecidableEq

namespace Reply

/-- With one more line of output. -/
def line (r : Reply) (text : String) : Reply := { r with output := r.output ++ text ++ "\n" }

/-- With one more line of diagnostics. -/
def note (r : Reply) (text : String) : Reply := { r with errors := r.errors ++ text ++ "\n" }

/-- A failure after what was printed. -/
def fail (r : Reply) (fault : CommandFault) : Reply :=
  { r.note ("Error: " ++ fault.message) with code := 1 }

end Reply

/-- What is printed after a file was written, or was not. -/
def Delivery.reply (d : Delivery) (written : Bool) : Reply :=
  if written then Reply.note {} ("Wrote result to '" ++ d.path ++ "'")
  else Reply.fail {} (.unwritable d.path)

/-- What is to be checked, as a document says. -/
def Validation.Request.ofJson? (j : Json) : Option Validation.Request := do
  match ← j.fields? [["params"], ["inputs"], ["logic", "logicJson"], ["outputs"],
      ["currentStage"]] with
  | [params, inputs, logic, outputs, currentStage] =>
    return {
      params := ← optionalList? Param.ofJson? params
      inputs := ← optionalList? Wiring.ofJson? inputs
      logic := ← Json.optional? Logic.ofJson? .empty logic
      outputs := ← Json.optional? (Json.nullable? (Json.list? OutputMapping.ofJson?)) none outputs
      currentStage := ← Json.optional? Json.natural? 0 currentStage }
  | _ => none

namespace Command

/-- The symbols of a context, typed by its values. -/
def symbolsOf (ctx : Formula.Context) : Formula.SymbolTable :=
  ctx.entries.foldl (fun table (name, value) => table.addInput name none (some (.ofValue value)))
    .empty

/-- The context that a text holds. -/
def readContext? (text : String) : Option Formula.Context :=
  ((Json.read? text).bind (Json.members? Value.ofJson?)).map Dict.ofList

/-- The answer to an evaluation whose context is read: the value, then what is known of the formula. -/
def evaluationIn (formula : String) (ctx : Formula.Context) : Reply :=
  match Formula.parseFormula formula with
  | .error _ => Reply.fail {} .formula
  | .ok e =>
    match Formula.evaluate ctx e with
    | .error _ => Reply.fail {} .evaluation
    | .ok value =>
      let (type, faults) := Formula.infer (symbolsOf ctx) e
      let reply := (Reply.line {} value.toText).note ("Type: " ++ type.name)
      let reply :=
        if e.identifiers.isEmpty then reply
        else reply.note ("Identifiers: " ++ ", ".intercalate e.identifiers)
      faults.foldl (fun reply f => reply.note (f.severity.name ++ ": " ++ f.message)) reply

/-- The answer to an evaluation. -/
def evaluationReply (readFile : String → Option String) (formula : String)
    (context contextFile : Option String) : Reply :=
  let text : Except CommandFault String :=
    match context, contextFile with
    | some text, _ => .ok text
    | none, some path =>
      match readFile path with
      | some text => .ok text
      | none => .error (.unreadable path)
    | none, none => .ok "\x7b\x7d"
  match text with
  | .error fault => Reply.fail {} fault
  | .ok text =>
    match readContext? text with
    | none => Reply.fail {} .context
    | some ctx => evaluationIn formula ctx

/-- The lines of an issue. -/
def issueLines (reply : Reply) (i : Issue) : Reply :=
  let reply := reply.line i.text
  match i.hint with
  | some hint => reply.line ("    hint: " ++ hint)
  | none => reply

/-- The answer to a validation. -/
def validationReply (readFile : String → Option String) (path : String) : Reply :=
  match readFile path with
  | none => Reply.fail {} (.unreadable path)
  | some text =>
    match (Json.read? text).bind Validation.Request.ofJson? with
    | none => Reply.fail {} (.logicDocument path)
    | some request =>
      let report := Validation.validateLogic request
      let reply := report.issues.foldl issueLines {}
      let reply := reply.note (toString report.errors.length ++ " error(s), " ++
        toString report.warnings.length ++ " warning(s)")
      if report.hasErrors then reply.fail (.invalidLogic path) else reply

/-- The line that sums a calculation up. -/
def summary (s : Stats) : String :=
  "Calculated " ++ toString s.stagesCalculated ++ " stage(s) (" ++ toString s.fallbacks ++
    " fallback, " ++ toString s.unresolved ++ " unresolved, " ++ toString s.evaluationErrors ++
    " formula errors)"

/-- The answer to a calculation, and the file that the result goes to if not to the output. -/
def calculationReply (readFile : String → Option String) (path : String) (output : Option String)
    (quantity : Option Float) (pretty : Bool) : Reply × Option Delivery :=
  match readFile path with
  | none => (Reply.fail {} (.unreadable path), none)
  | some text =>
    match OfferRequest.read? text with
    | none => (Reply.fail {} (.request path), none)
    | some request =>
      match OfferRequest.calculate { request with quantity := quantity.or request.quantity } with
      | .error _ => (Reply.fail {} .calculation, none)
      | .ok result =>
        let reply := Reply.note {} (summary result.costs.stats)
        let text := if pretty then result.toJson.pretty else result.toJson.compact
        match output with
        | some path => (reply, some ⟨path, text⟩)
        | none => (reply.line text, none)

/-- The answer to a command, and a file that is to be written after it. -/
def run (readFile : String → Option String) : Command → Reply × Option Delivery
  | .evaluate formula context contextFile =>
    (evaluationReply readFile formula context contextFile, none)
  | .validate path => (validationReply readFile path, none)
  | .calculate path output quantity pretty =>
    calculationReply readFile path output quantity pretty

/-- The answer to a command line that is none. -/
def misuse : Reply :=
  { errors := "error: the arguments are no command; use eval, check or calc\n", code := 2 }

end Command

end Costing
