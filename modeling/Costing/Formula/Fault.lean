import Costing.Path

/-!
# Formula — Fault

Why a formula has no tree or no value.  `Fault.message` is the wording of each cause.
-/

namespace Costing.Formula

/-- The deepest nesting of a formula; parentheses, arguments, unary operators and chained binary
operators each add a level. -/
def maxDepth : Nat := 256

/-- Why tokens are no expression, or quotes and digits no token. -/
inductive SyntaxFault where
  | unterminatedString (position : Nat)
  /-- A second point in a number; `text` is what stands before that point. -/
  | malformedNumber (text : String) (position : Nat)
  | empty
  | tooDeep
  | unexpected (text : String) (position : Nat)
  | expected (wanted text : String) (position : Nat)
  | expectedAtEnd (wanted : String)
  | unexpectedEnd
  | invalidNumber (text : String) (position : Nat)
  | unterminatedArguments (function : String)
deriving Repr, DecidableEq

/-- The wording of a syntax fault. -/
def SyntaxFault.message : SyntaxFault → String
  | .unterminatedString p => "Unterminated string literal starting at position " ++ toString p
  | .malformedNumber text p => "Malformed number '" ++ text ++ ".' at position " ++ toString p
  | .empty => "Empty formula"
  | .tooDeep => "Formula nested too deeply (more than " ++ toString maxDepth ++ " levels)"
  | .unexpected text p => "Unexpected '" ++ text ++ "' at position " ++ toString p
  | .expected wanted text p =>
    "Expected '" ++ wanted ++ "', got '" ++ text ++ "' at position " ++ toString p
  | .expectedAtEnd wanted => "Expected '" ++ wanted ++ "', got end of formula"
  | .unexpectedEnd => "Unexpected end of formula"
  | .invalidNumber text p => "Invalid number '" ++ text ++ "' at position " ++ toString p
  | .unterminatedArguments function => "Unterminated argument list for " ++ function ++ "()"

/-- Why a built-in function has no value for its arguments. -/
inductive ArgumentFault where
  | digits (kind : String)
  | noValues (function : String)
  | path (text : String) (fault : PathFault)
  | pathKind (kind : String)
  | noTiers
  | tiersKind (kind : String)
  | tierWithoutPrice (index : Nat)
deriving Repr, DecidableEq

/-- The wording of a fault in a path. -/
def pathMessage (text : String) (fault : PathFault) : String :=
  "Invalid path '" ++ text ++ "': " ++ fault.reason

/-- The wording of an argument fault. -/
def ArgumentFault.message : ArgumentFault → String
  | .digits kind => "round: digits must be a number, got " ++ kind
  | .noValues function => function ++ ": no values"
  | .path text fault => "get: " ++ pathMessage text fault
  | .pathKind kind => "get: path must be a string or a non-negative integer, got " ++ kind
  | .noTiers => "getPrice: record has no \x60tiers\x60 array"
  | .tiersKind kind => "getPrice: tiers must be an array, got " ++ kind
  | .tierWithoutPrice index => "getPrice: tier " ++ toString index ++ " has no numeric price"

/-- Why a pattern and its flags do not compile. -/
inductive PatternFault where
  | repeatedFlag (flag : Char) (flags : String)
  | unsupportedFlag (flag : Char) (flags : String)
  | rejected
deriving Repr, DecidableEq

/-- The wording of a pattern fault. -/
def PatternFault.message : PatternFault → String
  | .repeatedFlag flag flags =>
    "repeated flag '" ++ flag.toString ++ "' in '" ++ flags ++ "'"
  | .unsupportedFlag flag flags =>
    "unsupported flag '" ++ flag.toString ++ "' in '" ++ flags ++ "'"
  | .rejected => "the pattern is no regular expression"

/-- Why a formula has no tree or no value. -/
inductive Fault where
  /-- A character that no token starts with. -/
  | unsupported (found : Char) (position : Nat)
  | malformed (fault : SyntaxFault)
  | argument (fault : ArgumentFault)
  | unknownFunction (name : String)
  | argumentCount (function arity : String) (given : Nat)
  | pattern (fault : PatternFault)
deriving Repr, DecidableEq

namespace Fault

/-- The wording of a fault. -/
def message : Fault → String
  | unsupported found p =>
    "Unsupported character '" ++ found.toString ++ "' at position " ++ toString p
  | malformed fault => "Parse error: " ++ fault.message
  | argument fault => "Invalid argument: " ++ fault.message
  | unknownFunction name => "Unknown function: " ++ name
  | argumentCount function arity given =>
    "Wrong number of arguments for " ++ function ++ ": expected " ++ arity ++ ", got " ++
      toString given
  | pattern fault => "Invalid pattern: " ++ fault.message

/-- Whether the text itself is at fault, whatever it is evaluated in. -/
def isSyntax : Fault → Bool
  | unsupported .. | malformed _ => true
  | _ => false

end Fault

end Costing.Formula
