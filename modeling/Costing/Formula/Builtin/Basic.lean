import Costing.Formula.ValueType

/-!
# Formula — Builtin

The functions that formulas may call: their names, how many arguments they take and what they return.
Names are looked up without regard to case.
-/

namespace Costing.Formula

/-- The built-in functions, in the order of their names. -/
inductive Builtin where
  | abs
  | ceil
  | contains
  | floor
  | get
  | getPrice
  | if
  | join
  | len
  | lower
  | max
  | min
  | regexExtract
  | regexMatch
  | replace
  | round
  | split
  | toNumber
  | toString
  | trim
  | upper
deriving Repr, DecidableEq

/-- What a function returns. -/
inductive ReturnType where
  | fixed (type : ValueType)
  /-- The common type of the second and the third argument. -/
  | branches
deriving Repr, DecidableEq

namespace Builtin

/-- All functions in the order of their names. -/
def all : List Builtin :=
  [abs, ceil, contains, floor, get, getPrice, .if, join, len, lower, max, min, regexExtract,
    regexMatch, replace, round, split, toNumber, toString, trim, upper]

/-- The name of a function. -/
def name : Builtin → String
  | abs => "abs"
  | ceil => "ceil"
  | contains => "contains"
  | floor => "floor"
  | get => "get"
  | getPrice => "getPrice"
  | .if => "if"
  | join => "join"
  | len => "len"
  | lower => "lower"
  | max => "max"
  | min => "min"
  | regexExtract => "regexExtract"
  | regexMatch => "regexMatch"
  | replace => "replace"
  | round => "round"
  | split => "split"
  | toNumber => "toNumber"
  | toString => "toString"
  | trim => "trim"
  | upper => "upper"

/-- The function that a name means, its case ignored. -/
def find? (name : String) : Option Builtin :=
  all.find? fun f => f.name.toLower == name.toLower

/-- The least number of arguments. -/
def minArgs : Builtin → Nat
  | contains | get | getPrice | .if | regexExtract | regexMatch => 2
  | replace => 3
  | _ => 1

/-- The largest number of arguments, if there is one. -/
def maxArgs : Builtin → Option Nat
  | max | min => none
  | contains | get | join | round | split => some 2
  | getPrice | .if | regexExtract | regexMatch => some 3
  | replace => some 4
  | _ => some 1

/-- What a function returns. -/
def returns : Builtin → ReturnType
  | .if => .branches
  | abs | ceil | floor | getPrice | len | max | min | round | toNumber => .fixed .number
  | contains | regexMatch => .fixed .bool
  | split => .fixed .array
  | get => .fixed .any
  | join | lower | regexExtract | replace | toString | trim | upper => .fixed .string

/-- Whether a function takes a number of arguments. -/
def accepts (f : Builtin) (count : Nat) : Bool :=
  f.minArgs ≤ count && f.maxArgs.all (count ≤ ·)

/-- The numbers of arguments that a function takes, in words. -/
def arity (f : Builtin) : String :=
  match f.maxArgs with
  | some most =>
    if most = f.minArgs then ToString.toString most
    else ToString.toString f.minArgs ++ " to " ++ ToString.toString most
  | none => "at least " ++ ToString.toString f.minArgs

end Builtin

end Costing.Formula
