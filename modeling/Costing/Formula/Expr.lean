import Costing.Value.Coercion

/-!
# Formula — Expr

Expression trees, their fully parenthesised text and the names they mention.
-/

namespace Costing.Formula

/-- The operators with two operands. -/
inductive BinaryOp where
  | add
  | subtract
  | multiply
  | divide
  | modulo
  | equal
  | notEqual
  | less
  | lessEqual
  | greater
  | greaterEqual
  | and
  | or
deriving Repr, DecidableEq

namespace BinaryOp

/-- All operators. -/
def all : List BinaryOp :=
  [add, subtract, multiply, divide, modulo, equal, notEqual, less, lessEqual, greater,
    greaterEqual, and, or]

/-- How an operator is written. -/
def symbol : BinaryOp → String
  | add => "+"
  | subtract => "-"
  | multiply => "*"
  | divide => "/"
  | modulo => "%"
  | equal => "=="
  | notEqual => "!="
  | less => "<"
  | lessEqual => "<="
  | greater => ">"
  | greaterEqual => ">="
  | and => "&&"
  | or => "||"

/-- The operator that a symbol stands for. -/
def ofSymbol? (symbol : String) : Option BinaryOp :=
  all.find? fun op => op.symbol == symbol

/-- Always numeric: subtraction, multiplication, division and remainder. -/
def isNumeric : BinaryOp → Bool
  | subtract | multiply | divide | modulo => true
  | _ => false

/-- Comparing by order. -/
def isOrdering : BinaryOp → Bool
  | less | lessEqual | greater | greaterEqual => true
  | _ => false

end BinaryOp

/-- The operators with one operand. -/
inductive UnaryOp where
  | not
  | negate
deriving Repr, DecidableEq

/-- How an operator is written. -/
def UnaryOp.symbol : UnaryOp → String
  | .not => "!"
  | .negate => "-"

/-- The operator that a symbol stands for. -/
def UnaryOp.ofSymbol? : String → Option UnaryOp
  | "!" => some .not
  | "-" => some .negate
  | _ => none

/-- An expression. -/
inductive Expr where
  | literal (v : Value)
  | identifier (name : String)
  | unary (op : UnaryOp) (operand : Expr)
  | binary (op : BinaryOp) (left right : Expr)
  | call (name : String) (args : List Expr)
deriving Repr, Inhabited

namespace Expr

/-- Induction over expressions, with a hypothesis for each argument of a call. -/
@[elab_as_elim, induction_eliminator]
theorem induct {P : Expr → Prop} (literal : ∀ v, P (.literal v))
    (identifier : ∀ name, P (.identifier name))
    (unary : ∀ op operand, P operand → P (.unary op operand))
    (binary : ∀ op left right, P left → P right → P (.binary op left right))
    (call : ∀ name args, (∀ arg ∈ args, P arg) → P (.call name args)) (e : Expr) : P e :=
  @Expr.rec P (fun args => ∀ arg ∈ args, P arg) literal identifier unary binary call nofun
    (fun _ _ hfirst hrest => List.forall_mem_cons.2 ⟨hfirst, hrest⟩) e

/-- How a character stands in a string literal. -/
def escape (c : Char) : List Char :=
  if c = '\\' ∨ c = '"' then ['\\', c] else [c]

/-- A string literal with double quotes. -/
def quote (s : String) : String :=
  String.ofList ('"' :: s.toList.flatMap escape ++ ['"'])

/-- The text of a literal. -/
def literalText [Json.Codec] : Value → String
  | .string s => quote s
  | .null => "null"
  | v => v.toText

mutual

/-- The text of an expression, with parentheses around every binary operation. -/
def render [Json.Codec] : Expr → String
  | literal v => literalText v
  | identifier name => name
  | unary op operand => op.symbol ++ render operand
  | binary op left right => "(" ++ render left ++ " " ++ op.symbol ++ " " ++ render right ++ ")"
  | call name args => name ++ "(" ++ ", ".intercalate (renderAll args) ++ ")"

/-- The texts of arguments. -/
def renderAll [Json.Codec] : List Expr → List String
  | [] => []
  | arg :: rest => render arg :: renderAll rest

end

mutual

/-- Every occurrence of an identifier, from left to right. -/
def mentions : Expr → List String
  | literal _ => []
  | identifier name => [name]
  | unary _ operand => mentions operand
  | binary _ left right => mentions left ++ mentions right
  | call _ args => mentionsAll args

/-- Every occurrence of an identifier in arguments. -/
def mentionsAll : List Expr → List String
  | [] => []
  | arg :: rest => mentions arg ++ mentionsAll rest

end

/-- The free identifiers in order of first appearance; a callee is none. -/
def identifiers (e : Expr) : List String :=
  e.mentions.eraseDups

mutual

/-- The nodes of an expression, each before its operands. -/
def nodes : Expr → List Expr
  | literal v => [literal v]
  | identifier name => [identifier name]
  | unary op operand => unary op operand :: nodes operand
  | binary op left right => binary op left right :: (nodes left ++ nodes right)
  | call name args => call name args :: nodesAll args

/-- The nodes of arguments. -/
def nodesAll : List Expr → List Expr
  | [] => []
  | arg :: rest => nodes arg ++ nodesAll rest

end

theorem nodesAll_eq_flatMap (args : List Expr) : nodesAll args = args.flatMap nodes := by
  induction args with
  | nil => rfl
  | cons arg rest ih => rw [nodesAll, ih, List.flatMap_cons]

theorem mem_nodes_self (e : Expr) : e ∈ e.nodes := by
  cases e <;> exact List.mem_cons_self

/-- The functions called anywhere, each call before those in its arguments. -/
def calls (e : Expr) : List String :=
  e.nodes.filterMap fun
    | call name _ => some name
    | _ => none

/-- The contents of the string literals. -/
def strings (e : Expr) : List String :=
  e.nodes.filterMap fun
    | literal (.string s) => some s
    | _ => none

end Expr

end Costing.Formula
