import Costing.Formula.Builtin.Basic
import Costing.Formula.Expr
import Costing.Issue

/-!
# Formula — Typing

The type of an expression as far as it is known before evaluation, and what is wrong with its
operands and calls.  Types that are not known never lead to a fault.
-/

namespace Costing.Formula

/-- Where a symbol comes from. -/
inductive SymbolKind where
  | input
  | var
deriving Repr, DecidableEq

/-- A name that formulas may read. -/
structure Symbol where
  kind : SymbolKind
  name : String
  declared : Option ValueType
  inferred : Option ValueType
deriving Repr, DecidableEq

/-- The type of a symbol: as declared, else as inferred. -/
def Symbol.type (s : Symbol) : ValueType :=
  (s.declared.or s.inferred).getD .unknown

/-- The symbols of a scope in the order they were added; a later one hides those of its name. -/
structure SymbolTable where
  symbols : List Symbol
deriving Repr, DecidableEq

namespace SymbolTable

/-- No symbol. -/
def empty : SymbolTable := ⟨[]⟩

/-- Adds a symbol. -/
def add (t : SymbolTable) (s : Symbol) : SymbolTable :=
  ⟨t.symbols ++ [s]⟩

/-- Adds an input. -/
def addInput (t : SymbolTable) (name : String) (declared inferred : Option ValueType) :
    SymbolTable :=
  t.add ⟨.input, name, declared, inferred⟩

/-- Adds a variable. -/
def addVar (t : SymbolTable) (name : String) (type : ValueType) : SymbolTable :=
  t.add ⟨.var, name, none, some type⟩

/-- The symbol that a name means: the last one added. -/
def get? (t : SymbolTable) (name : String) : Option Symbol :=
  t.symbols.reverse.find? (·.name == name)

/-- Whether a name means a symbol. -/
def contains (t : SymbolTable) (name : String) : Bool :=
  (t.get? name).isSome

end SymbolTable

/-- A side of a binary operator. -/
inductive Side where
  | left
  | right
deriving Repr, DecidableEq

/-- How a side is written. -/
def Side.name : Side → String
  | .left => "left"
  | .right => "right"

/-- What is wrong with the types of an expression. -/
inductive TypeFault where
  | unknownIdentifier (name : String)
  | negated (type : ValueType)
  | notNumeric (op : BinaryOp) (type : ValueType) (side : Side)
  | compared (left right : ValueType) (op : BinaryOp)
  | unknownFunction (name : String)
  | argumentCount (function : Builtin) (given : Nat)
deriving Repr, DecidableEq

namespace TypeFault

/-- How grave a fault is. -/
def severity : TypeFault → Severity
  | unknownIdentifier _ | compared .. => .warning
  | negated _ | notNumeric .. | unknownFunction _ | argumentCount .. => .error

/-- The kind of issue that a fault is. -/
def code : TypeFault → IssueCode
  | unknownIdentifier _ => .unknownIdentifier
  | negated _ | notNumeric .. | compared .. => .typeMismatch
  | unknownFunction _ => .unknownFunction
  | argumentCount .. => .argumentCount

/-- The wording of a fault. -/
def message : TypeFault → String
  | unknownIdentifier name => "Unknown identifier '" ++ name ++ "'"
  | negated type => "Cannot negate a " ++ type.name
  | notNumeric op type side =>
    "Operator '" ++ op.symbol ++ "' expects numbers, got " ++ type.name ++ " on the " ++ side.name
  | compared left right op =>
    "Comparing " ++ left.name ++ " with " ++ right.name ++ " using '" ++ op.symbol ++ "'"
  | unknownFunction name => "Unknown function '" ++ name ++ "'"
  | argumentCount function given =>
    function.name ++ "() takes " ++ function.arity ++ " argument(s), got " ++ toString given

/-- Whether a fault is an error. -/
def isError (f : TypeFault) : Bool :=
  f.severity == .error

end TypeFault

/-- A type with the faults met on the way to it, in order. -/
abbrev Typed := ValueType × List TypeFault

/-- The faults of operands that have to be numbers. -/
def numericFaults (op : BinaryOp) (l r : ValueType) : List TypeFault :=
  (if l.isNumericCompatible then [] else [.notNumeric op l .left]) ++
    (if r.isNumericCompatible then [] else [.notNumeric op r .right])

/-- The type of a prefix operator. -/
def UnaryOp.typed (op : UnaryOp) (operand : ValueType) : Typed :=
  match op with
  | .not => (.bool, [])
  | .negate => (.number, if operand.isNumericCompatible then [] else [.negated operand])

/-- The type of a binary operator. -/
def BinaryOp.typed (op : BinaryOp) (l r : ValueType) : Typed :=
  if op = .add then
    if l = .string ∨ r = .string then (.string, []) else (.number, numericFaults op l r)
  else if op.isNumeric then (.number, numericFaults op l r)
  else if op.isOrdering then
    (.bool, if l.isConcrete && r.isConcrete && l != r then [.compared l r op] else [])
  else (.bool, [])

/-- The type that a function returns for arguments of some types. -/
def Builtin.resultType (f : Builtin) (args : List ValueType) : ValueType :=
  match f.returns with
  | .fixed type => type
  | .branches => (args[1]?.getD ValueType.unknown).unify (args[2]?.getD ValueType.any)

/-- The type of a call. -/
def typedCall (name : String) (args : List ValueType) : Typed :=
  match Builtin.find? name with
  | none => (.unknown, [.unknownFunction name])
  | some f =>
    (f.resultType args, if f.accepts args.length then [] else [.argumentCount f args.length])

mutual

/-- The type of an expression and its faults. -/
def infer (symbols : SymbolTable) : Expr → Typed
  | .literal v => (.ofValue v, [])
  | .identifier name =>
    match symbols.get? name with
    | some s => (s.type, [])
    | none => (.unknown, [.unknownIdentifier name])
  | .unary op operand =>
    let (type, faults) := infer symbols operand
    let (result, own) := op.typed type
    (result, faults ++ own)
  | .binary op left right =>
    let (l, leftFaults) := infer symbols left
    let (r, rightFaults) := infer symbols right
    let (result, own) := op.typed l r
    (result, leftFaults ++ rightFaults ++ own)
  | .call name args =>
    let (types, faults) := inferAll symbols args
    let (result, own) := typedCall name types
    (result, faults ++ own)

/-- The types of arguments and their faults. -/
def inferAll (symbols : SymbolTable) : List Expr → List ValueType × List TypeFault
  | [] => ([], [])
  | arg :: rest =>
    let (type, faults) := infer symbols arg
    let (types, others) := inferAll symbols rest
    (type :: types, faults ++ others)

end

end Costing.Formula
