import Costing.Formula.Expr
import Costing.Formula.Token

/-!
# Formula — Parser

Tokens to trees by recursive descent over six levels of left-associative binary operators, prefix
operators and primaries.  A cursor carries the tokens to come and the depth of nesting; every
parenthesis, argument, prefix operator and chained operator adds a level, taken back when its part is
complete.  `parseFormula` reads a formula text.
-/

namespace Costing.Formula

/-- Levels of binary operators, from loose to tight. -/
inductive Level where
  | or
  | and
  | equality
  | comparison
  | sum
  | product
deriving Repr, DecidableEq

/-- The levels from loose to tight. -/
def Level.all : List Level := [.or, .and, .equality, .comparison, .sum, .product]

/-- The level an operator binds at. -/
def BinaryOp.level : BinaryOp → Level
  | .or => .or
  | .and => .and
  | .equal | .notEqual => .equality
  | .less | .lessEqual | .greater | .greaterEqual => .comparison
  | .add | .subtract => .sum
  | .multiply | .divide | .modulo => .product

namespace Token

/-- Whether a token is the punctuation or operator `text`. -/
def is (t : Token) (kind : TokenKind) (text : String) : Bool :=
  t.kind == kind && t.text == text

/-- The binary operator of a level that a token stands for. -/
def binaryOp? (t : Token) (level : Level) : Option BinaryOp :=
  if t.kind = .operator then (BinaryOp.ofSymbol? t.text).filter (·.level = level) else none

/-- The prefix operator that a token stands for. -/
def unaryOp? (t : Token) : Option UnaryOp :=
  if t.kind = .operator then UnaryOp.ofSymbol? t.text else none

end Token

/-- The tokens to come and the depth of nesting. -/
structure Cursor where
  rest : List Token
  depth : Nat

namespace Cursor

/-- One level deeper. -/
def descend (c : Cursor) : Except Fault Cursor :=
  if c.depth + 1 > maxDepth then .error (.malformed .tooDeep)
  else .ok { c with depth := c.depth + 1 }

/-- Some levels up again. -/
def ascend (c : Cursor) (levels : Nat) : Cursor :=
  { c with depth := c.depth - levels }

/-- Whether the next token is the punctuation `text`. -/
def sees (c : Cursor) (kind : TokenKind) (text : String) : Bool :=
  c.rest.head?.any (·.is kind text)

/-- Takes the punctuation `text`. -/
def expect (c : Cursor) (kind : TokenKind) (text : String) : Except Fault Cursor :=
  match c.rest with
  | [] => .error (.malformed (.expectedAtEnd text))
  | t :: rest =>
    if t.is kind text then .ok { c with rest }
    else .error (.malformed (.expected text t.text t.position))

end Cursor

/-- Reading a part off the front of a cursor. -/
abbrev Reader (α : Type) := Cursor → Except Fault (α × Cursor)

/-- The operators of a level with their right operands, applied to `left` one after the other, and
the number of levels they added.  Fuel bounds the levels. -/
def readChain (level : Level) (operand : Reader Expr) :
    Nat → Expr → Nat → Cursor → Except Fault (Expr × Nat × Cursor)
  | fuel, left, chained, c =>
    match c.rest with
    | [] => .ok (left, chained, c)
    | t :: rest =>
      match t.binaryOp? level with
      | none => .ok (left, chained, c)
      | some op =>
        match fuel with
        | 0 => .error (.malformed .tooDeep)
        | fuel + 1 => do
          let c ← Cursor.descend { c with rest }
          let (right, c) ← operand c
          readChain level operand fuel (.binary op left right) (chained + 1) c

/-- Operands of a level between its operators. -/
def readLevel (level : Level) (operand : Reader Expr) : Reader Expr := fun c => do
  let (first, c) ← operand c
  let (e, chained, c) ← readChain level operand (maxDepth + 1) first 0 c
  return (e, c.ascend chained)

/-- An expression of the levels, given how what binds tighter than all of them is read. -/
def readLevels (tightest : Reader Expr) : List Level → Reader Expr
  | [] => tightest
  | level :: tighter => readLevel level (readLevels tightest tighter)

/-- Arguments, at least one, separated by commas.  Fuel bounds their number. -/
def readArguments (expression : Reader Expr) : Nat → Reader (List Expr)
  | 0, _ => .error (.malformed .unexpectedEnd)
  | fuel + 1, c => do
    let (arg, c) ← expression c
    if c.sees .comma "," then
      let (args, c) ← readArguments expression fuel { c with rest := c.rest.tail }
      return (arg :: args, c)
    else return ([arg], c)

/-- A call, its name taken and an opening parenthesis ahead. -/
def readCall (expression : Reader Expr) (name : String) : Reader Expr := fun c => do
  let c ← c.expect .paren "("
  let (args, c) ←
    if c.sees .paren ")" then .ok ([], c) else readArguments expression (c.rest.length + 1) c
  if c.rest.isEmpty then .error (.malformed (.unterminatedArguments name))
  else
    let c ← c.expect .paren ")"
    return (.call name args, c)

/-- What a name that is not called stands for. -/
def ofName : String → Expr
  | "true" => .literal (.bool true)
  | "false" => .literal (.bool false)
  | "null" => .literal .null
  | name => .identifier name

/-- A literal, a name, a call or an expression in parentheses. -/
def readPrimary (expression : Reader Expr) : Reader Expr := fun c =>
  match c.rest with
  | [] => .error (.malformed .unexpectedEnd)
  | t :: rest =>
    let c := { c with rest }
    match t.kind with
    | .number =>
      match Number.read? t.text with
      | some x => .ok (.literal (.number x), c)
      | none => .error (.malformed (.invalidNumber t.text t.position))
    | .string => .ok (.literal (.string t.text), c)
    | .identifier =>
      if c.sees .paren "(" then readCall expression t.text c else .ok (ofName t.text, c)
    | .paren =>
      if t.text = "(" then do
        let (e, c) ← expression c
        let c ← c.expect .paren ")"
        return (e, c)
      else .error (.malformed (.unexpected t.text t.position))
    | .operator | .comma => .error (.malformed (.unexpected t.text t.position))

/-- Prefix operators before a primary, each one a level. -/
def readUnaryFrom (expression : Reader Expr) (depth : Nat) :
    List Token → Except Fault (Expr × Cursor)
  | [] => readPrimary expression ⟨[], depth⟩
  | t :: rest =>
    match t.unaryOp? with
    | none => readPrimary expression ⟨t :: rest, depth⟩
    | some op => do
      let deeper ← Cursor.descend ⟨rest, depth⟩
      let (operand, c) ← readUnaryFrom expression deeper.depth rest
      return (.unary op operand, c.ascend 1)

/-- Prefix operators before a primary. -/
def readUnary (expression : Reader Expr) : Reader Expr := fun c =>
  readUnaryFrom expression c.depth c.rest

/-- An expression that nests less than `levels` deep. -/
def readExpression : Nat → Reader Expr
  | 0, _ => .error (.malformed .tooDeep)
  | levels + 1, c => do
    let c ← c.descend
    let (e, c) ← readLevels (readUnary (readExpression levels)) Level.all c
    return (e, c.ascend 1)

/-- The tree of a list of tokens. -/
def parse (tokens : List Token) : Except Fault Expr :=
  if tokens.isEmpty then .error (.malformed .empty)
  else do
    let (e, c) ← readExpression (maxDepth + 1) ⟨tokens, 0⟩
    match c.rest with
    | [] => return e
    | t :: _ => .error (.malformed (.unexpected t.text t.position))

/-- The tree of a formula text. -/
def parseFormula (formula : String) : Except Fault Expr := do
  parse (← Token.scan formula)

end Costing.Formula
