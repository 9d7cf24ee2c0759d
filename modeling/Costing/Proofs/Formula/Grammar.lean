import Mathlib.Data.List.Basic
import Costing.Formula.Parser

/-!
# Formula — the grammar

What a run of tokens stands for, as rules that know nothing of a parser.

The grammar has eight layers: six levels of binary operators, from `||` to `*`, then prefix operators,
then primaries.  An operator of a level stands between a chain of the same level on its left and an
operand of the next layer on its right, so chains group to the left; a prefix operator stands before a
part of its own layer.  A primary is a number, a string, a name, a call, or an expression in parentheses.

`Derives ts p` says that all of `ts` derives the phrase `p`; `Derives ts (.tree .expression e)` is what it
means that `ts` is written for the tree `e`.  The rules put no bound on nesting.
-/

namespace Costing.Formula

/-! ### Operators by spelling -/

/-- The operators of a level. -/
def Level.operators : Level → List (String × BinaryOp)
  | .or => [("||", .or)]
  | .and => [("&&", .and)]
  | .equality => [("==", .equal), ("!=", .notEqual)]
  | .comparison => [("<", .less), ("<=", .lessEqual), (">", .greater), (">=", .greaterEqual)]
  | .sum => [("+", .add), ("-", .subtract)]
  | .product => [("*", .multiply), ("/", .divide), ("%", .modulo)]

/-- The operators with one operand. -/
def unaryOperators : List (String × UnaryOp) := [("!", .not), ("-", .negate)]

/-- The names that are literals. -/
def literalNames : List (String × Value) :=
  [("true", .bool true), ("false", .bool false), ("null", .null)]

/-! ### The rules -/

/-- The layers, from loose to tight. -/
inductive Layer where
  | chain (level : Level)
  | unary
  | primary
deriving DecidableEq

/-- The layer of whole expressions. -/
abbrev Layer.expression : Layer := .chain .or

/-- The layer of the operands of a level, the next one. -/
def Level.operand : Level → Layer
  | .or => .chain .and
  | .and => .chain .equality
  | .equality => .chain .comparison
  | .comparison => .chain .sum
  | .sum => .chain .product
  | .product => .unary

/-- What tokens can stand for: a tree of a layer, or the arguments of a call. -/
inductive Phrase where
  | tree (layer : Layer) (e : Expr)
  | arguments (args : List Expr)

/-- A run of tokens derives a phrase. -/
inductive Derives : List Token → Phrase → Prop where
  /-- An operand alone. -/
  | operand {level : Level} {ts : List Token} {e : Expr} :
      Derives ts (.tree level.operand e) → Derives ts (.tree (.chain level) e)
  /-- A chain, an operator of its level, and an operand. -/
  | binary {level : Level} {left right : List Token} {t : Token} {symbol : String} {op : BinaryOp}
      {l r : Expr} :
      Derives left (.tree (.chain level) l) → t.is .operator symbol → (symbol, op) ∈ level.operators →
      Derives right (.tree level.operand r) →
      Derives (left ++ t :: right) (.tree (.chain level) (.binary op l r))
  /-- A primary alone. -/
  | primary {ts : List Token} {e : Expr} :
      Derives ts (.tree .primary e) → Derives ts (.tree .unary e)
  /-- A prefix operator and its operand. -/
  | unary {ts : List Token} {t : Token} {symbol : String} {op : UnaryOp} {e : Expr} :
      t.is .operator symbol → (symbol, op) ∈ unaryOperators → Derives ts (.tree .unary e) →
      Derives (t :: ts) (.tree .unary (.unary op e))
  /-- A number, whose text is one. -/
  | number {t : Token} {x : Float} :
      t.kind = .number → Number.read? t.text = some x →
      Derives [t] (.tree .primary (.literal (.number x)))
  /-- A string. -/
  | string {t : Token} :
      t.kind = .string → Derives [t] (.tree .primary (.literal (.string t.text)))
  /-- A name that is a literal. -/
  | literal {t : Token} {name : String} {v : Value} :
      t.is .identifier name → (name, v) ∈ literalNames → Derives [t] (.tree .primary (.literal v))
  /-- Any other name. -/
  | identifier {t : Token} :
      t.kind = .identifier → t.text ∉ literalNames.map Prod.fst →
      Derives [t] (.tree .primary (.identifier t.text))
  /-- A call without arguments. -/
  | call {name opening closing : Token} :
      name.kind = .identifier → opening.is .paren "(" → closing.is .paren ")" →
      Derives [name, opening, closing] (.tree .primary (.call name.text []))
  /-- A call with arguments. -/
  | callWith {name opening closing : Token} {ts : List Token} {args : List Expr} :
      name.kind = .identifier → opening.is .paren "(" → Derives ts (.arguments args) →
      closing.is .paren ")" →
      Derives (name :: opening :: (ts ++ [closing])) (.tree .primary (.call name.text args))
  /-- An expression in parentheses. -/
  | parentheses {opening closing : Token} {ts : List Token} {e : Expr} :
      opening.is .paren "(" → Derives ts (.tree .expression e) → closing.is .paren ")" →
      Derives (opening :: (ts ++ [closing])) (.tree .primary e)
  /-- The last argument. -/
  | lastArgument {ts : List Token} {e : Expr} :
      Derives ts (.tree .expression e) → Derives ts (.arguments [e])
  /-- An argument before others. -/
  | argument {ts rest : List Token} {comma : Token} {e : Expr} {args : List Expr} :
      Derives ts (.tree .expression e) → comma.is .comma "," → Derives rest (.arguments args) →
      Derives (ts ++ comma :: rest) (.arguments (e :: args))

/-! ### A tree of a tighter layer is one of every looser layer -/

/-- The layers count up from loose to tight. -/
def Layer.rank : Layer → Nat
  | .chain .or => 0
  | .chain .and => 1
  | .chain .equality => 2
  | .chain .comparison => 3
  | .chain .sum => 4
  | .chain .product => 5
  | .unary => 6
  | .primary => 7

theorem Level.rank_operand (level : Level) : level.operand.rank = (Layer.chain level).rank + 1 := by
  cases level <;> rfl

theorem Layer.rank_le (layer : Layer) : layer.rank ≤ Layer.primary.rank := by
  cases layer with
  | chain level => cases level <;> decide
  | unary | primary => decide

theorem Layer.rank_injective {layer layer' : Layer} (h : layer.rank = layer'.rank) : layer = layer' := by
  cases layer with
  | unary | primary => cases layer' with
    | unary | primary => first | rfl | cases h
    | chain level' => cases level' <;> cases h
  | chain level => cases layer' with
    | unary | primary => cases level <;> cases h
    | chain level' => cases level <;> cases level' <;> first | rfl | cases h

/-- What derives a tree of a tighter layer derives one of a looser layer. -/
theorem Derives.loosen {ts : List Token} {layer tighter : Layer} {e : Expr}
    (h : Derives ts (.tree tighter e)) (hle : layer.rank ≤ tighter.rank) :
    Derives ts (.tree layer e) := by
  obtain ⟨n, hn⟩ := Nat.exists_eq_add_of_le hle
  -- one layer at a time, from the tighter one down
  induction n generalizing layer with
  | zero => exact Layer.rank_injective hn ▸ h
  | succ n ih =>
      cases layer with
      | chain level =>
          have hrank := level.rank_operand
          exact .operand (ih (by omega) (by omega))
      | unary =>
          have hprimary : Layer.primary.rank = Layer.unary.rank + 1 := rfl
          exact .primary (ih (by omega) (by omega))
      | primary =>
          have hlast : tighter.rank ≤ Layer.primary.rank := tighter.rank_le
          omega

/-! ### Tokens that are operators -/

theorem BinaryOp.ofSymbol?_eq_some {symbol : String} {op : BinaryOp} :
    ofSymbol? symbol = some op ↔ op.symbol = symbol := by
  constructor
  · intro h
    have hsymbol := List.find?_some h
    exact eq_of_beq hsymbol
  · rintro rfl
    cases op <;> rfl

theorem Level.of_mem_operators (level : Level) :
    ∀ pair ∈ level.operators, pair.2.symbol = pair.1 ∧ pair.2.level = level := by
  cases level <;> decide

/-- The operators of a level are those that bind at it, by their symbols. -/
theorem Level.mem_operators {level : Level} {symbol : String} {op : BinaryOp} :
    (symbol, op) ∈ level.operators ↔ op.symbol = symbol ∧ op.level = level := by
  constructor
  · exact level.of_mem_operators (symbol, op)
  · rintro ⟨rfl, rfl⟩
    cases op <;> decide

theorem mem_unaryOperators {symbol : String} {op : UnaryOp} :
    (symbol, op) ∈ unaryOperators ↔ UnaryOp.ofSymbol? symbol = some op := by
  unfold UnaryOp.ofSymbol?
  split <;> cases op <;> simp_all [unaryOperators]

namespace Token

theorem is_iff {t : Token} {kind : TokenKind} {text : String} :
    t.is kind text ↔ t.kind = kind ∧ t.text = text := by
  simp [is]

theorem binaryOp?_eq_some {t : Token} {level : Level} {op : BinaryOp} :
    t.binaryOp? level = some op ↔ ∃ symbol, t.is .operator symbol ∧ (symbol, op) ∈ level.operators := by
  unfold binaryOp?
  split
  · next hk =>
      simp [Option.filter_eq_some_iff, BinaryOp.ofSymbol?_eq_some, Level.mem_operators, is_iff, hk]
  · next hk => simp [is_iff, hk]

theorem unaryOp?_eq_some {t : Token} {op : UnaryOp} :
    t.unaryOp? = some op ↔ ∃ symbol, t.is .operator symbol ∧ (symbol, op) ∈ unaryOperators := by
  unfold unaryOp?
  split
  · next hk => simp [mem_unaryOperators, is_iff, hk]
  · next hk => simp [is_iff, hk]

end Token

end Costing.Formula
