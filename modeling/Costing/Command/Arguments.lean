import Costing.Number.Literal
import Costing.Text.Search

/-!
# Command — Arguments

The commands and how they are written on a command line.  Options may stand anywhere, in a long form
(`--name value`, `--name=value`) or a short one (`-n value`, `-nvalue`, `-n=value`, several flags after
one dash); two dashes end them.
-/

namespace Costing

/-- What can be asked for. -/
inductive Command where
  /-- The value of a formula in a context, given as a text or by the path of a file. -/
  | evaluate (formula : String) (context contextFile : Option String)
  /-- The report on the logic in a file. -/
  | validate (path : String)
  /-- The calculation of the offer in a file, at another quantity if one is given. -/
  | calculate (path : String) (output : Option String) (quantity : Option Float) (pretty : Bool)
deriving Repr

/-- An option of a command. -/
structure OptionSpec where
  long : String
  short : Option Char := none
  takesValue : Bool := false
  /-- It may stand more than once. -/
  repeatable : Bool := false
deriving Repr, DecidableEq

/-- An option as it stands on a command line. -/
structure Given where
  long : String
  value : String := ""
deriving Repr, DecidableEq

/-- The options and the other words of a command line. -/
structure Words where
  options : List Given := []
  operands : List String := []
deriving Repr, DecidableEq

namespace Words

/-- With one more option in front. -/
def withOption (w : Words) (g : Given) : Words := { w with options := g :: w.options }

/-- With one more word in front. -/
def withOperand (w : Words) (word : String) : Words := { w with operands := word :: w.operands }

/-- The value of an option. -/
def value? (w : Words) (long : String) : Option String :=
  (w.options.find? (·.long == long)).map Given.value

/-- Whether an option stands. -/
def has (w : Words) (long : String) : Bool := (w.value? long).isSome

/-- Whether each option that may stand only once does. -/
def areSingle (w : Words) (specs : List OptionSpec) : Bool :=
  specs.all fun s => s.repeatable || (w.options.filter (·.long == s.long)).length ≤ 1

end Words

/-- Whether a word can be the value of an option before it. -/
def isValueWord (word : String) : Bool :=
  word == "-" || !word.startsWith "-"

/-- The flags after one dash, the last of which may be an option with its value; `needsValue` is that
option if its value is the next word. -/
structure Cluster where
  flags : List Given
  needsValue : Option String
deriving Repr, DecidableEq

/-- Reads what stands after one dash. -/
def readCluster? (specs : List OptionSpec) : List Char → Option Cluster
  | [] => some ⟨[], none⟩
  | c :: cs => do
    let spec ← specs.find? (·.short == some c)
    if spec.takesValue then
      match cs with
      | [] => return ⟨[], some spec.long⟩
      | '=' :: value => return ⟨[⟨spec.long, String.ofList value⟩], none⟩
      | value => return ⟨[⟨spec.long, String.ofList value⟩], none⟩
    else
      let rest ← readCluster? specs cs
      return { rest with flags := ⟨spec.long, ""⟩ :: rest.flags }

/-- Reads what stands after two dashes. -/
def readLong? (specs : List OptionSpec) (word : String) : Option Cluster :=
  match Text.cutAt? word '=' with
  | some (name, value) => do
    let spec ← specs.find? (·.long == name)
    if spec.takesValue then return ⟨[⟨name, value⟩], none⟩ else none
  | none => do
    let spec ← specs.find? (·.long == word)
    if spec.takesValue then return ⟨[], some word⟩ else return ⟨[⟨word, ""⟩], none⟩

/-- Reads a word that starts with a dash; other words are none. -/
def readOption? (specs : List OptionSpec) (word : String) : Option (Option Cluster) :=
  match word.toList with
  | '-' :: '-' :: name => some (readLong? specs (String.ofList name))
  | '-' :: c :: cs => some (readCluster? specs (c :: cs))
  | _ => none

/-- Sorts the words of a command line into options and others. -/
def readWords? (specs : List OptionSpec) : List String → Option Words
  | [] => some {}
  | word :: rest =>
    if word == "--" then some { operands := rest }
    else
      match readOption? specs word with
      | none => (readWords? specs rest).map (·.withOperand word)
      | some none => none
      | some (some ⟨flags, none⟩) =>
        (readWords? specs rest).map fun words => flags.foldr (fun g w => w.withOption g) words
      | some (some ⟨flags, some long⟩) =>
        match rest with
        | [] => none
        | value :: rest =>
          if isValueWord value then
            (readWords? specs rest).map fun words =>
              flags.foldr (fun g w => w.withOption g) (words.withOption ⟨long, value⟩)
          else none

namespace Command

/-- The option that every command has: to log more. -/
def verbose : OptionSpec := { long := "verbose", short := some 'v', repeatable := true }

/-- The options of evaluation. -/
def evaluateOptions : List OptionSpec := [
  verbose,
  { long := "context", short := some 'c', takesValue := true },
  { long := "context-file", takesValue := true }]

/-- The options of calculation. -/
def calculateOptions : List OptionSpec := [
  verbose,
  { long := "output", short := some 'o', takesValue := true },
  { long := "quantity", short := some 'q', takesValue := true },
  { long := "pretty", short := some 'p' }]

/-- The words of a command with one operand. -/
def readOne? (specs : List OptionSpec) (args : List String) : Option (String × Words) := do
  let words ← readWords? specs args
  match words.operands with
  | [operand] => if words.areSingle specs then some (operand, words) else none
  | _ => none

/-- A path that is given; an empty one is none. -/
def path? (text : String) : Option String :=
  if text.isEmpty then none else some text

/-- The path that an option may give. -/
def optionPath? (words : Words) (long : String) : Option (Option String) :=
  match words.value? long with
  | none => some none
  | some text => (path? text).map some

/-- The evaluation that words ask for; its context is given in one way at most. -/
def evaluateOf? (args : List String) : Option Command := do
  let (formula, words) ← readOne? evaluateOptions args
  let context := words.value? "context"
  let contextFile ← optionPath? words "context-file"
  if context.isSome && contextFile.isSome then none
  else return .evaluate formula context contextFile

/-- The check that words ask for. -/
def validateOf? (args : List String) : Option Command := do
  let (text, _) ← readOne? [verbose] args
  return .validate (← path? text)

/-- The calculation that words ask for. -/
def calculateOf? (args : List String) : Option Command := do
  let (text, words) ← readOne? calculateOptions args
  let path ← path? text
  let output ← optionPath? words "output"
  let quantity ←
    match words.value? "quantity" with
    | none => some none
    | some text => (Number.read? text).map some
  return .calculate path output quantity (words.has "pretty")

/-- The command of a command line; the options that all commands have may stand before its name. -/
def ofArguments? : List String → Option Command
  | [] => none
  | word :: rest =>
    match word with
    | "eval" => evaluateOf? rest
    | "check" => validateOf? rest
    | "calc" | "calculate" => calculateOf? rest
    | _ =>
      match readOption? [verbose] word with
      | some (some ⟨_ :: _, none⟩) => ofArguments? rest
      | _ => none

end Command

end Costing
