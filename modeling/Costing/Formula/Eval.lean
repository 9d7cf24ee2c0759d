import Costing.Formula.Builtin.Basic
import Costing.Formula.Builtin.Collection
import Costing.Formula.Builtin.Numeric
import Costing.Formula.Builtin.Pattern
import Costing.Formula.Builtin.Price
import Costing.Formula.Parser
import Costing.Platform
import Costing.Text.Case

/-!
# Formula — Eval

The value of an expression in a context of named values.  Operands are evaluated from left to right,
all of them; a name that the context lacks is null.
-/

namespace Costing.Formula

/-- The named values that formulas read. -/
abbrev Context := Dict Value

/-- The value of a function for evaluated arguments, whatever their number. -/
def Builtin.apply [Platform] (f : Builtin) (args : Arguments) : Outcome :=
  let first := args.nth 0
  match f with
  | .abs => .ok (.number first.toNumber.abs)
  | .ceil => .ok (.number (Number.ceil first.toNumber))
  | .floor => .ok (.number (Number.floor first.toNumber))
  | .round => Builtin.applyRound args
  | .max => Builtin.applyExtreme "max" Number.larger args
  | .min => Builtin.applyExtreme "min" Number.smaller args
  | .if => .ok (if first.truthy then args.nth 1 else args.nth 2)
  | .trim => .ok (.string (Text.trim first.toText))
  | .lower => .ok (.string (Text.lower first.toText))
  | .upper => .ok (.string (Text.upper first.toText))
  | .replace => Builtin.applyReplace args
  | .toNumber => .ok (.number first.toNumber)
  | .toString => .ok (.string first.toText)
  | .len => .ok (.number (Float.ofNat (Builtin.lengthOf first)))
  | .contains => .ok (.bool (Builtin.hasPart first (args.nth 1)))
  | .split => .ok (Builtin.applySplit args)
  | .join => .ok (Builtin.applyJoin args)
  | .get => Builtin.applyGet args
  | .regexMatch => Builtin.applyRegexMatch args
  | .regexExtract => Builtin.applyRegexExtract args
  | .getPrice => Builtin.applyGetPrice args

/-- The value of a prefix operator. -/
def UnaryOp.apply (op : UnaryOp) (v : Value) : Value :=
  match op with
  | .not => .bool !v.truthy
  | .negate => .number (-v.toNumber)

/-- Whether either value is a text. -/
def eitherString : Value → Value → Bool
  | .string _, _ | _, .string _ => true
  | _, _ => false

/-- The sum of two numbers or texts that look like numbers, else the texts after each other if one
operand is a text, else the sum of what the values count as. -/
def add [Json.Codec] (a b : Value) : Value :=
  match a.numeric?, b.numeric? with
  | some x, some y => .number (x + y)
  | _, _ =>
    if eitherString a b then .string (a.toText ++ b.toText)
    else .number (a.toNumber + b.toNumber)

/-- The order of two numbers; a NaN has none. -/
def compareNumbers (x y : Float) : Option Ordering :=
  if x < y then some .lt else if x == y then some .eq else if y < x then some .gt else none

/-- The order of two texts by code points. -/
def compareStrings (a b : String) : Ordering :=
  if a < b then .lt else if a = b then .eq else .gt

/-- The order of two truth values, false before true. -/
def compareBools (a b : Bool) : Ordering :=
  if a = b then .eq else if b then .lt else .gt

/-- The order of two values: of numbers and texts that look like numbers, of texts or of truth
values; others have none. -/
def order? (a b : Value) : Option Ordering :=
  match a.numeric?, b.numeric? with
  | some x, some y => compareNumbers x y
  | _, _ =>
    match a, b with
    | .string s, .string t => some (compareStrings s t)
    | .bool p, .bool q => some (compareBools p q)
    | _, _ => none

/-- The value of a binary operator. -/
def BinaryOp.apply [Json.Codec] (op : BinaryOp) (a b : Value) : Value :=
  match op with
  | .add => Formula.add a b
  | .subtract => .number (a.toNumber - b.toNumber)
  | .multiply => .number (a.toNumber * b.toNumber)
  | .divide => .number (a.toNumber / b.toNumber)
  | .modulo => .number (Number.remainder a.toNumber b.toNumber)
  | .equal => .bool (a.same b)
  | .notEqual => .bool !(a.same b)
  | .less => .bool (order? a b == some .lt)
  | .lessEqual => .bool ((order? a b).any Ordering.isLE)
  | .greater => .bool (order? a b == some .gt)
  | .greaterEqual => .bool ((order? a b).any Ordering.isGE)
  | .and => .bool (a.truthy && b.truthy)
  | .or => .bool (a.truthy || b.truthy)

mutual

/-- The value of an expression. -/
def evaluate [Platform] (ctx : Context) : Expr → Outcome
  | .literal v => .ok v
  | .identifier name => .ok ((ctx.get? name).getD .null)
  | .unary op operand => do
    let v ← evaluate ctx operand
    return op.apply v
  | .binary op left right => do
    let a ← evaluate ctx left
    let b ← evaluate ctx right
    return op.apply a b
  | .call name args =>
    match Builtin.find? name with
    | none => .error (.unknownFunction name)
    | some f =>
      if f.accepts args.length then do
        let values ← evaluateAll ctx args
        f.apply values
      else .error (.argumentCount f.name f.arity args.length)

/-- The values of arguments, from left to right. -/
def evaluateAll [Platform] (ctx : Context) : List Expr → Except Fault (List Value)
  | [] => .ok []
  | arg :: rest => do
    let v ← evaluate ctx arg
    let values ← evaluateAll ctx rest
    return v :: values

end

/-- The value of an expression if one is produced; null and numbers that are not finite are none. -/
def tryEvaluate [Platform] (ctx : Context) (e : Expr) : Except Fault (Option Value) := do
  let v ← evaluate ctx e
  return if v.isPresent then some v else none

/-- The value that a formula text produces, if any. -/
def evaluateText [Platform] (ctx : Context) (formula : String) : Except Fault (Option Value) := do
  tryEvaluate ctx (← parseFormula formula)

end Costing.Formula
