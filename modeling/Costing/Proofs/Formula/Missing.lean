import Costing.Formula.Eval
import Costing.Native
import Costing.Proofs.Number.NotANumber
import Mathlib.Data.List.TakeWhile

/-!
# Formula — missing inputs

What arithmetic makes of a name that the context lacks.  `Expr.IsArithmetic` are the expressions of numbers,
names, the prefix minus, `+`, `-`, `*`, `/` and `%`; a context is numeric for an expression if each of its names
is missing or has a number or a text that looks like one.

A missing name is null.  Null counts as what is not a number, and that spoils every operation, but `+` joins texts:
beside a text null is the empty text (`Absorbed`), and the sum is the text.

* `IsArithmetic.evaluate_numeric`: an arithmetic expression has a number, a text that looks like one, or is a
  missing name itself.
* `IsArithmetic.evaluate_spoiled`: an expression in which a missing name stands anywhere but beside a text under
  `+` (`Exposes`) is not a number, or is a missing name itself.
* `tryEvaluate_of_exposes`: so it has no value, while an absorbed name leaves the text beside it.
-/

namespace Costing

/-! ### What values count as -/

namespace Value

/-- A text of blanks looks like no number. -/
theorem readNumeric?_of_isAllBlank {s : String} (h : Text.isAllBlank s) : readNumeric? s = none := by
  have hdrop : Text.dropBlank s.toList = [] := List.dropWhile_eq_nil_iff.2 (List.all_eq_true.1 h)
  have htrim : Text.trimChars s.toList = [] := by
    rw [Text.trimChars, hdrop]
    rfl
  rw [readNumeric?, htrim]
  rfl

/-- What looks like a number counts as that number. -/
theorem toNumber_of_numeric? {v : Value} {x : Float} (h : v.numeric? = some x) : v.toNumber = x := by
  cases v with
  | number y => exact Option.some.inj h
  | string s =>
      have hread : readNumeric? s = some x := h
      have hblank : ¬ Text.isAllBlank s := fun hall => by
        rw [readNumeric?_of_isAllBlank hall] at hread
        cases hread
      rw [toNumber, if_neg hblank, hread]
      rfl
  | null | bool | array | record => cases h

theorem isNaN_toNumber_null : null.toNumber.isNaN := by
  decide +kernel

end Value

namespace Formula

/-! ### Operators of arithmetic -/

/-- The operators of arithmetic. -/
def BinaryOp.IsArithmetic (op : BinaryOp) : Prop :=
  op = .add ∨ op.isNumeric

/-- Two values that look like numbers are added as numbers, and so are two of which none is a text. -/
theorem add_eq_number [Json.Codec] {a b : Value}
    (h : a.numeric?.isSome ∧ b.numeric?.isSome ∨ eitherString a b = false) :
    add a b = .number (a.toNumber + b.toNumber) := by
  unfold add
  split
  · next x y hx hy => rw [Value.toNumber_of_numeric? hx, Value.toNumber_of_numeric? hy]
  · next hnone =>
      rcases h with ⟨ha, hb⟩ | h
      · obtain ⟨x, hx⟩ := Option.isSome_iff_exists.1 ha
        obtain ⟨y, hy⟩ := Option.isSome_iff_exists.1 hb
        exact absurd hy (hnone x y hx)
      · rw [h]
        rfl

/-- **An operand that is not a number** spoils an operation, if the operation is none on texts. -/
theorem BinaryOp.IsArithmetic.isNaN_apply [Json.Codec] {op : BinaryOp} (hop : op.IsArithmetic) {a b : Value}
    (hadd : op = .add → a.numeric?.isSome ∧ b.numeric?.isSome ∨ eitherString a b = false)
    (h : a.toNumber.isNaN ∨ b.toNumber.isNaN) : ∃ z : Float, op.apply a b = .number z ∧ z.isNaN := by
  rcases hop with rfl | hop
  · exact ⟨_, add_eq_number (hadd rfl), Number.isNaN_add h⟩
  · cases op with
    | subtract => exact ⟨_, rfl, Number.isNaN_sub h⟩
    | multiply => exact ⟨_, rfl, Number.isNaN_mul h⟩
    | divide => exact ⟨_, rfl, Number.isNaN_div h⟩
    | modulo => exact ⟨_, rfl, Number.isNaN_remainder h⟩
    | add | equal | notEqual | less | lessEqual | greater | greaterEqual | and | or => cases hop

/-- Null beside a text is the empty text. -/
theorem add_null_string [Json.Codec] (s : String) :
    add .null (.string s) = .string s ∧ add (.string s) .null = .string s := by
  constructor
  · show Value.string (Value.null.toText ++ s) = _
    rw [Value.toText, String.empty_append]
  · have hnone : add (.string s) .null = .string (s ++ Value.null.toText) := by
      unfold add
      split
      · next hnull => cases hnull
      · rfl
    rw [hnone, Value.toText, String.append_empty]

/-! ### Expressions of arithmetic -/

variable {ctx : Context} {e : Expr}

/-- Numbers, names, the prefix minus and the operators of arithmetic. -/
inductive Expr.IsArithmetic : Expr → Prop where
  | number (x : Float) : IsArithmetic (.literal (.number x))
  | name (x : String) : IsArithmetic (.identifier x)
  | negate {e : Expr} : IsArithmetic e → IsArithmetic (.unary .negate e)
  | binary {op : BinaryOp} {a b : Expr} :
      op.IsArithmetic → IsArithmetic a → IsArithmetic b → IsArithmetic (.binary op a b)

/-- A name that the context lacks or holds null under. -/
def Missing (ctx : Context) (name : String) : Prop :=
  (ctx.get? name).getD .null = .null

/-- Each name of an expression is missing, or has a number or a text that looks like one. -/
def NumericFor (ctx : Context) (e : Expr) : Prop :=
  ∀ x ∈ e.mentions, Missing ctx x ∨ ∃ v, ctx.get? x = some v ∧ v.numeric?.isSome

/-- A missing name, and nothing else. -/
def IsMissing (ctx : Context) (e : Expr) : Prop :=
  ∃ x, e = .identifier x ∧ Missing ctx x

/-- A missing name beside an expression whose value is a text. -/
def Absorbed [Platform] (ctx : Context) (e other : Expr) : Prop :=
  IsMissing ctx e ∧ ∃ s, evaluate ctx other = .ok (.string s)

/-- Somewhere a missing name stands that is not beside a text under `+`. -/
inductive Exposes [Platform] (ctx : Context) : Expr → Prop where
  | name {x : String} : Missing ctx x → Exposes ctx (.identifier x)
  | unary {op : UnaryOp} {e : Expr} : Exposes ctx e → Exposes ctx (.unary op e)
  | left {op : BinaryOp} {a b : Expr} :
      Exposes ctx a → (op = .add → ¬ Absorbed ctx a b) → Exposes ctx (.binary op a b)
  | right {op : BinaryOp} {a b : Expr} :
      Exposes ctx b → (op = .add → ¬ Absorbed ctx b a) → Exposes ctx (.binary op a b)

theorem evaluate_of_isMissing [Platform] (h : IsMissing ctx e) : evaluate ctx e = .ok .null := by
  obtain ⟨x, rfl, hx⟩ := h
  rw [evaluate, hx]

theorem evaluate_binary [Platform] {op : BinaryOp} {a b : Expr} {v w : Value} (ha : evaluate ctx a = .ok v)
    (hb : evaluate ctx b = .ok w) : evaluate ctx (.binary op a b) = .ok (op.apply v w) := by
  rw [evaluate, ha, hb]
  rfl

/-- A missing name beside a text leaves the text as it is. -/
theorem evaluate_add_of_absorbed [Platform] {a b : Expr} (h : Absorbed ctx a b) :
    evaluate ctx (.binary .add a b) = evaluate ctx b ∧ evaluate ctx (.binary .add b a) = evaluate ctx b := by
  obtain ⟨hmissing, s, hs⟩ := h
  have hnull := evaluate_of_isMissing hmissing
  rw [evaluate_binary hnull hs, evaluate_binary hs hnull, hs]
  exact ⟨congrArg _ (add_null_string s).1, congrArg _ (add_null_string s).2⟩

/-- The value of an arithmetic expression: a number or a text that looks like one, or null for a missing name. -/
def IsNumeric (ctx : Context) (e : Expr) (v : Value) : Prop :=
  v.numeric?.isSome ∨ v = .null ∧ IsMissing ctx e

/-- What is not a number, or null for a missing name. -/
def IsSpoiled (ctx : Context) (e : Expr) (v : Value) : Prop :=
  (∃ z : Float, v = .number z ∧ z.isNaN) ∨ v = .null ∧ IsMissing ctx e

theorem IsSpoiled.isNaN_toNumber {v : Value} (h : IsSpoiled ctx e v) : v.toNumber.isNaN := by
  rcases h with ⟨z, rfl, hz⟩ | ⟨rfl, -⟩
  · exact hz
  · exact Value.isNaN_toNumber_null

theorem IsSpoiled.isPresent {v : Value} (h : IsSpoiled ctx e v) : v.isPresent = false := by
  rcases h with ⟨z, rfl, hz⟩ | ⟨rfl, -⟩
  · rw [Value.isPresent_number]
    exact Number.isFinite_of_isNaN hz
  · rfl

/-- A spoiled operand of `+` that is not absorbed is not joined as a text. -/
theorem IsSpoiled.numeric_or [Platform] {a b : Expr} {v w : Value} (h : IsSpoiled ctx a v) (hw : IsNumeric ctx b w)
    (hb : evaluate ctx b = .ok w) (habsorbed : ¬ Absorbed ctx a b) :
    v.numeric?.isSome ∧ w.numeric?.isSome ∨ (eitherString v w = false ∧ eitherString w v = false) := by
  rcases h with ⟨z, rfl, -⟩ | ⟨rfl, hmissing⟩
  · rcases hw with hw | ⟨rfl, -⟩
    · exact .inl ⟨rfl, hw⟩
    · exact .inr ⟨rfl, rfl⟩
  · refine .inr ?_
    cases w with
    | string s => exact absurd ⟨hmissing, s, hb⟩ habsorbed
    | null | bool | number | array | record => exact ⟨rfl, rfl⟩

/-- The sum of two values that are null or look like numbers. -/
theorem numeric_add [Json.Codec] {v w : Value} (hv : v.numeric?.isSome ∨ v = .null) (hw : w.numeric?.isSome ∨ w = .null) :
    (add v w).numeric?.isSome := by
  have hnumber : eitherString v w = false → (add v w).numeric?.isSome := fun h => by
    rw [add_eq_number (.inr h)]
    rfl
  rcases hv with hv | rfl <;> rcases hw with hw | rfl
  · rw [add_eq_number (.inl ⟨hv, hw⟩)]
    rfl
  · cases v with
    | string s => rwa [(add_null_string s).2]
    | null | bool | number | array | record => exact hnumber rfl
  · cases w with
    | string s => rwa [(add_null_string s).1]
    | null | bool | number | array | record => exact hnumber rfl
  · exact hnumber rfl

namespace Expr.IsArithmetic

/-- **Arithmetic on what looks like numbers** fails nowhere and gives what looks like a number. -/
theorem evaluate_numeric [Platform] (h : e.IsArithmetic) (hctx : NumericFor ctx e) :
    ∃ v, evaluate ctx e = .ok v ∧ IsNumeric ctx e v := by
  induction h with
  | number x => exact ⟨_, by rw [evaluate], .inl rfl⟩
  | name x =>
      rcases hctx x (List.mem_singleton_self x) with hx | ⟨v, hv, hnumeric⟩
      · exact ⟨.null, evaluate_of_isMissing ⟨x, rfl, hx⟩, .inr ⟨rfl, x, rfl, hx⟩⟩
      · exact ⟨v, by rw [evaluate, hv]; rfl, .inl hnumeric⟩
  | @negate e _ ih =>
      obtain ⟨v, hv, -⟩ := ih hctx
      exact ⟨.number (-v.toNumber), by rw [evaluate, hv]; rfl, .inl rfl⟩
  | @binary op a b hop _ _ iha ihb =>
      obtain ⟨v, hv, hnumv⟩ := iha fun x hx => hctx x (List.mem_append_left _ hx)
      obtain ⟨w, hw, hnumw⟩ := ihb fun x hx => hctx x (List.mem_append_right _ hx)
      refine ⟨_, evaluate_binary hv hw, .inl ?_⟩
      rcases hop with rfl | hop
      · exact numeric_add (hnumv.imp_right And.left) (hnumw.imp_right And.left)
      · cases op with
        | subtract | multiply | divide | modulo => rfl
        | add | equal | notEqual | less | lessEqual | greater | greaterEqual | and | or => cases hop

/-- **An exposed missing name** spoils the whole expression. -/
theorem evaluate_spoiled [Platform] (h : Exposes ctx e) (he : e.IsArithmetic) (hctx : NumericFor ctx e) :
    ∃ v, evaluate ctx e = .ok v ∧ IsSpoiled ctx e v := by
  induction h with
  | @name x hx => exact ⟨.null, evaluate_of_isMissing ⟨x, rfl, hx⟩, .inr ⟨rfl, x, rfl, hx⟩⟩
  | unary _ ih =>
      cases he with
      | negate he =>
          obtain ⟨v, hv, hspoiled⟩ := ih he hctx
          have hneg := Number.isNaN_neg hspoiled.isNaN_toNumber
          exact ⟨.number (-v.toNumber), by rw [evaluate, hv]; rfl, .inl ⟨_, rfl, hneg⟩⟩
  | @left op a b _ habsorbed ih =>
      cases he with
      | binary hop ha hb =>
          obtain ⟨v, hv, hspoiled⟩ := ih ha fun x hx => hctx x (List.mem_append_left _ hx)
          obtain ⟨w, hw, hnumeric⟩ := hb.evaluate_numeric fun x hx => hctx x (List.mem_append_right _ hx)
          refine ⟨_, evaluate_binary hv hw, .inl (hop.isNaN_apply (fun hadd => ?_)
            (.inl hspoiled.isNaN_toNumber))⟩
          exact (hspoiled.numeric_or hnumeric hw (habsorbed hadd)).imp_right And.left
  | @right op a b _ habsorbed ih =>
      cases he with
      | binary hop ha hb =>
          obtain ⟨v, hv, hnumeric⟩ := ha.evaluate_numeric fun x hx => hctx x (List.mem_append_left _ hx)
          obtain ⟨w, hw, hspoiled⟩ := ih hb fun x hx => hctx x (List.mem_append_right _ hx)
          refine ⟨_, evaluate_binary hv hw, .inl (hop.isNaN_apply (fun hadd => ?_)
            (.inr hspoiled.isNaN_toNumber))⟩
          exact (hspoiled.numeric_or hnumeric hv (habsorbed hadd)).imp And.symm And.right

end Expr.IsArithmetic

/-! ### No value -/

/-- **A missing input never acts as zero**: an arithmetic expression over names that have numbers, or texts that
look like numbers, has no value if one of its names is missing and stands anywhere but beside a text under `+`.  Beside
a text, on either side of `+`, a missing name leaves the text as it is. -/
theorem tryEvaluate_of_exposes [Platform] (he : e.IsArithmetic) (hctx : NumericFor ctx e) (h : Exposes ctx e) :
    tryEvaluate ctx e = .ok none ∧
      ∀ a b, Absorbed ctx a b →
        evaluate ctx (.binary .add a b) = evaluate ctx b ∧ evaluate ctx (.binary .add b a) = evaluate ctx b := by
  refine ⟨?_, fun a b => evaluate_add_of_absorbed⟩
  obtain ⟨v, hv, hspoiled⟩ := he.evaluate_spoiled h hctx
  rw [tryEvaluate, hv]
  exact congrArg Except.ok (if_neg (by rw [hspoiled.isPresent]; decide))

/-- The text `5` under `n`, and nothing under `m`. -/
def fiveText : Context :=
  Dict.empty.put "n" (.string "5")

theorem numericFor_fiveText (h : ∀ x ∈ e.mentions, x = "m" ∨ x = "n") : NumericFor fiveText e := fun x hx => by
  rcases h x hx with rfl | rfl
  · exact .inl rfl
  · exact .inr ⟨.string "5", rfl, by decide +kernel⟩

open Native

/-- `(m + 2) * n`: what is beside the missing name is a number. -/
theorem tryEvaluate_of_exposes_product :
    let e : Expr := .binary .multiply (.binary .add (.identifier "m") (.literal (.number 2))) (.identifier "n")
    tryEvaluate fiveText e = .ok none := by
  intro e
  have harithmetic : e.IsArithmetic := .binary (.inr rfl) (.binary (.inl rfl) (.name _) (.number _)) (.name _)
  have hexposes : Exposes fiveText e := by
    refine .left (.left (.name rfl) fun _ h => ?_) nofun
    obtain ⟨-, s, hs⟩ := h
    cases hs
  exact (tryEvaluate_of_exposes harithmetic (numericFor_fiveText (by simp [e, Expr.mentions])) hexposes).1

/-- `m + n`: the missing name beside the text `5` leaves that text, so there is a value. -/
theorem tryEvaluate_missing_beside_text :
    let e : Expr := .binary .add (.identifier "m") (.identifier "n")
    e.IsArithmetic ∧ NumericFor fiveText e ∧ "m" ∈ e.identifiers ∧ Missing fiveText "m" ∧
      tryEvaluate fiveText e = .ok (some (.string "5")) :=
  ⟨.binary (.inl rfl) (.name _) (.name _), numericFor_fiveText (by simp [Expr.mentions]), by decide, rfl, rfl⟩

end Formula

end Costing
