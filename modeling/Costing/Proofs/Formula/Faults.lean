import Costing.Formula.Eval
import Costing.Formula.Typing
import Costing.Native
import Costing.Proofs.Result

/-!
# Formula — how evaluation fails

A tree whose calls name functions and give them as many arguments as they take fails only inside a
function, by a fault in an argument or in a pattern.

* `WellCalled`: such trees.
* `wellCalled_iff`: they are the trees whose typing reports no fault of a call, whatever the symbols.
* `wellCalled_of_evaluate`: evaluation gives values to such trees only.
* `infer_wellCalled`: a tree that types without errors is one of them.
* `Raised`: the faults that a function gives when it is applied to as many arguments as it takes.
* `WellCalled.evaluate_failsOnly`: evaluation fails with those only, in every context.
* `Raised.ofBuiltin`: each is a fault in an argument or in a pattern.
* `infer_checksCalls`: so typing tells in advance whether a call can be made.
-/

namespace Costing.Formula

/-! ### Trees with calls that can be made -/

/-- Every call names a function and gives it as many arguments as it takes. -/
inductive WellCalled : Expr → Prop where
  | literal (v : Value) : WellCalled (.literal v)
  | identifier (name : String) : WellCalled (.identifier name)
  | unary {op : UnaryOp} {operand : Expr} : WellCalled operand → WellCalled (.unary op operand)
  | binary {op : BinaryOp} {left right : Expr} :
      WellCalled left → WellCalled right → WellCalled (.binary op left right)
  | call {name : String} {f : Builtin} {args : List Expr} :
      Builtin.find? name = some f → f.accepts args.length → (∀ arg ∈ args, WellCalled arg) →
      WellCalled (.call name args)

theorem length_inferAll (symbols : SymbolTable) (args : List Expr) :
    (inferAll symbols args).1.length = args.length := by
  induction args with
  | nil => rfl
  | cons arg rest ih => rw [inferAll]; exact congrArg (· + 1) ih

/-- What is wrong with arguments is wrong with one of them. -/
theorem forall_mem_inferAll {symbols : SymbolTable} {args : List Expr} {P : TypeFault → Prop} :
    (∀ fault ∈ (inferAll symbols args).2, P fault) ↔
      ∀ arg ∈ args, ∀ fault ∈ (infer symbols arg).2, P fault := by
  induction args with
  | nil => exact iff_of_true (List.forall_mem_nil _) (List.forall_mem_nil _)
  | cons arg rest ih => rw [inferAll, List.forall_mem_append, List.forall_mem_cons, ih]

/-- A fault of a call: it names no function, or gives one another number of arguments than it takes. -/
def TypeFault.IsCall (fault : TypeFault) : Prop :=
  fault.code = .unknownFunction ∨ fault.code = .argumentCount

theorem TypeFault.IsCall.isError {fault : TypeFault} (h : fault.IsCall) : fault.isError := by
  cases fault with
  | unknownFunction | argumentCount => rfl
  | unknownIdentifier | negated | notNumeric | compared => rcases h with h | h <;> cases h

/-- The fault of an operator is none of a call. -/
theorem UnaryOp.not_isCall_of_typed {op : UnaryOp} {operand : ValueType} :
    ∀ fault ∈ (op.typed operand).2, ¬ fault.IsCall := by
  intro fault h
  cases op with
  | not => exact absurd h List.not_mem_nil
  | negate =>
      rw [typed] at h
      split at h
      · exact absurd h List.not_mem_nil
      · rw [List.mem_singleton.1 h]
        exact nofun

theorem not_isCall_of_numericFaults {op : BinaryOp} {l r : ValueType} :
    ∀ fault ∈ numericFaults op l r, ¬ fault.IsCall := by
  intro fault h
  rw [numericFaults, List.mem_append] at h
  rcases h with h | h
  all_goals
    split at h
    · exact absurd h List.not_mem_nil
    · rw [List.mem_singleton.1 h]
      exact nofun

theorem BinaryOp.not_isCall_of_typed {op : BinaryOp} {l r : ValueType} :
    ∀ fault ∈ (op.typed l r).2, ¬ fault.IsCall := by
  intro fault h
  unfold typed at h
  split at h
  · split at h
    · exact absurd h List.not_mem_nil
    · exact not_isCall_of_numericFaults fault h
  · split at h
    · exact not_isCall_of_numericFaults fault h
    · split at h
      · dsimp only at h
        split at h
        · rw [List.mem_singleton.1 h]
          exact nofun
        · exact absurd h List.not_mem_nil
      · exact absurd h List.not_mem_nil

/-- A call has no fault of its own exactly if it names a function and gives it as many arguments as it
takes. -/
theorem typedCall_iff {name : String} {types : List ValueType} :
    (∀ fault ∈ (typedCall name types).2, ¬ fault.IsCall) ↔
      ∃ f, Builtin.find? name = some f ∧ f.accepts types.length := by
  unfold typedCall
  split
  · next hnone =>
      refine ⟨fun h => absurd (.inl rfl) (h _ List.mem_cons_self), ?_⟩
      rintro ⟨f, hf, -⟩
      rw [hnone] at hf
      cases hf
  · next f hf =>
      by_cases haccepts : f.accepts types.length
      · rw [if_pos haccepts]
        exact iff_of_true (List.forall_mem_nil _) ⟨f, hf, haccepts⟩
      · rw [if_neg haccepts]
        refine ⟨fun h => absurd (.inr rfl) (h _ List.mem_cons_self), ?_⟩
        rintro ⟨f', hf', haccepts'⟩
        rw [hf] at hf'
        cases hf'
        exact absurd haccepts' haccepts

/-- **Typing finds every call that cannot be made**, and no other, whatever the symbols. -/
theorem wellCalled_iff (symbols : SymbolTable) {e : Expr} :
    WellCalled e ↔ ∀ fault ∈ (infer symbols e).2, ¬ fault.IsCall := by
  constructor
  · intro h
    induction h with
    | literal => exact List.forall_mem_nil _
    | identifier name =>
        intro fault hfault
        rw [infer] at hfault
        split at hfault
        · exact absurd hfault List.not_mem_nil
        · rw [List.mem_singleton.1 hfault]
          exact nofun
    | unary _ ih =>
        rw [infer, List.forall_mem_append]
        exact ⟨ih, UnaryOp.not_isCall_of_typed⟩
    | binary _ _ ihleft ihright =>
        rw [infer, List.forall_mem_append, List.forall_mem_append]
        exact ⟨⟨ihleft, ihright⟩, BinaryOp.not_isCall_of_typed⟩
    | @call name f args hf haccepts _ ih =>
        rw [infer, List.forall_mem_append, forall_mem_inferAll, typedCall_iff, length_inferAll]
        exact ⟨ih, f, hf, haccepts⟩
  · intro h
    induction e with
    | literal v => exact .literal v
    | identifier name => exact .identifier name
    | unary op operand ih =>
        rw [infer, List.forall_mem_append] at h
        exact .unary (ih h.1)
    | binary op left right ihleft ihright =>
        rw [infer, List.forall_mem_append, List.forall_mem_append] at h
        exact .binary (ihleft h.1.1) (ihright h.1.2)
    | call name args ih =>
        rw [infer, List.forall_mem_append, forall_mem_inferAll, typedCall_iff, length_inferAll] at h
        obtain ⟨hargs, f, hf, haccepts⟩ := h
        exact .call hf haccepts fun arg harg => ih arg harg (hargs arg harg)

/-- **A tree that types without errors** makes only calls that can be made. -/
theorem infer_wellCalled (symbols : SymbolTable) (e : Expr)
    (h : ∀ fault ∈ (infer symbols e).2, fault.isError = false) : WellCalled e := by
  refine (wellCalled_iff symbols).2 fun fault hfault hcall => ?_
  have hno := h fault hfault
  rw [hcall.isError] at hno
  cases hno

/-! ### Faults of the functions -/

/-- A fault in an argument or in a pattern. -/
inductive Fault.OfBuiltin : Fault → Prop where
  | argument (fault : ArgumentFault) : OfBuiltin (.argument fault)
  | pattern (fault : PatternFault) : OfBuiltin (.pattern fault)

namespace Builtin

theorem places_failsOnly (v : Value) : FailsOnly Fault.OfBuiltin (places v) := by
  unfold places
  dsimp only
  split
  · exact .argument _
  · split
    · trivial
    · split <;> trivial

theorem applyRound_failsOnly (args : Arguments) : FailsOnly Fault.OfBuiltin (applyRound args) := by
  unfold applyRound
  split
  · trivial
  · exact (places_failsOnly _).bind fun _ _ => trivial

theorem applyExtreme_failsOnly (function : String) (pick : Float → Float → Float) (args : Arguments) :
    FailsOnly Fault.OfBuiltin (applyExtreme function pick args) := by
  unfold applyExtreme
  split
  · exact .argument _
  · trivial

theorem pathOf_failsOnly (v : Value) : FailsOnly Fault.OfBuiltin (pathOf v) := by
  unfold pathOf
  split
  · split
    · trivial
    · exact .argument _
  · split
    · trivial
    · exact .argument _
  · exact .argument _

theorem readTiers_failsOnly (i : Nat) (items : List Value) : FailsOnly Fault.OfBuiltin (readTiers i items) := by
  induction items generalizing i with
  | nil => trivial
  | cons v rest ih =>
      unfold readTiers
      split
      · exact (ih (i + 1)).map _
      · exact .argument _

theorem tiersOf_failsOnly (v : Value) : FailsOnly Fault.OfBuiltin (tiersOf v) := by
  unfold tiersOf
  split
  · trivial
  · exact readTiers_failsOnly _ _
  · split
    · exact readTiers_failsOnly _ _
    · exact .argument _
  · exact .argument _

section

variable [Platform]

theorem compilePattern_failsOnly (pattern flags : String) :
    FailsOnly Fault.OfBuiltin (compilePattern pattern flags) := by
  unfold compilePattern
  split
  · exact .pattern _
  · split
    · trivial
    · exact .pattern _

theorem patternArguments_failsOnly (args : Arguments) :
    FailsOnly Fault.OfBuiltin (patternArguments args) :=
  (compilePattern_failsOnly _ _).bind fun _ _ => trivial

theorem applyReplace_failsOnly (args : Arguments) : FailsOnly Fault.OfBuiltin (applyReplace args) := by
  unfold applyReplace
  dsimp only
  split
  · trivial
  · exact (compilePattern_failsOnly _ _).bind fun _ _ => trivial

theorem applyGetPrice_failsOnly (args : Arguments) : FailsOnly Fault.OfBuiltin (applyGetPrice args) := by
  unfold applyGetPrice
  dsimp only
  split
  · trivial
  · split
    · trivial
    · exact (tiersOf_failsOnly _).bind fun _ _ => trivial

/-- **A function fails only** by a fault in an argument or in a pattern. -/
theorem apply_failsOnly (f : Builtin) (args : Arguments) : FailsOnly Fault.OfBuiltin (f.apply args) := by
  cases f with
  | round => exact applyRound_failsOnly args
  | max | min => exact applyExtreme_failsOnly _ _ args
  | replace => exact applyReplace_failsOnly args
  | get => exact (pathOf_failsOnly _).bind fun _ _ => trivial
  | regexMatch | regexExtract => exact (patternArguments_failsOnly args).bind fun _ _ => trivial
  | getPrice => exact applyGetPrice_failsOnly args
  | abs | ceil | contains | floor | «if» | join | len | lower | split | toNumber | toString | trim | upper =>
      trivial

end

end Builtin

section

variable [Platform]

/-- A fault that a function gives for as many arguments as it takes. -/
def Raised (fault : Fault) : Prop :=
  ∃ (f : Builtin) (args : Arguments), f.accepts args.length ∧ f.apply args = .error fault

theorem Raised.ofBuiltin {fault : Fault} (h : Raised fault) : fault.OfBuiltin := by
  obtain ⟨f, args, -, hfault⟩ := h
  exact (f.apply_failsOnly args).of_error hfault

/-! ### Evaluation -/

/-- Arguments have as many values. -/
theorem length_evaluateAll {ctx : Context} {args : List Expr} {values : List Value}
    (h : evaluateAll ctx args = .ok values) : values.length = args.length := by
  induction args generalizing values with
  | nil => cases h; rfl
  | cons arg rest ih =>
      rw [evaluateAll] at h
      obtain ⟨v, -, h⟩ := exists_of_bind_eq_ok h
      obtain ⟨others, hothers, h⟩ := exists_of_bind_eq_ok h
      cases h
      exact congrArg (· + 1) (ih hothers)

theorem evaluateAll_failsOnly {P : Fault → Prop} {ctx : Context} {args : List Expr}
    (h : ∀ arg ∈ args, FailsOnly P (evaluate ctx arg)) : FailsOnly P (evaluateAll ctx args) := by
  induction args with
  | nil => trivial
  | cons arg rest ih =>
      rw [List.forall_mem_cons] at h
      rw [evaluateAll]
      exact h.1.bind fun _ _ => (ih h.2).bind fun _ _ => trivial

/-- **Evaluation fails only inside a function**, if every call can be made. -/
theorem WellCalled.evaluate_failsOnly {e : Expr} (h : WellCalled e) (ctx : Context) :
    FailsOnly Raised (evaluate ctx e) := by
  induction h with
  | literal | identifier => trivial
  | unary _ ih =>
      rw [evaluate]
      exact ih.bind fun _ _ => trivial
  | binary _ _ ihleft ihright =>
      rw [evaluate]
      exact ihleft.bind fun _ _ => ihright.bind fun _ _ => trivial
  | @call name f args hf haccepts _ ih =>
      rw [evaluate, hf]
      dsimp only
      rw [if_pos haccepts]
      refine (evaluateAll_failsOnly ih).bind fun values hvalues => ?_
      refine .of_forall fun fault hfault => ⟨f, values, ?_, hfault⟩
      rwa [length_evaluateAll hvalues]

/-- Asking for a value that is present fails no other way. -/
theorem WellCalled.tryEvaluate_failsOnly {e : Expr} (h : WellCalled e) (ctx : Context) :
    FailsOnly Raised (tryEvaluate ctx e) :=
  (h.evaluate_failsOnly ctx).bind fun _ _ => trivial

/-! ### Calls that cannot be made -/

/-- Each argument has its value at its place. -/
theorem exists_getElem?_of_evaluateAll {ctx : Context} {args : List Expr} {values : List Value}
    (h : evaluateAll ctx args = .ok values) {i : Nat} {arg : Expr} (hi : args[i]? = some arg) :
    ∃ v, values[i]? = some v ∧ evaluate ctx arg = .ok v := by
  induction args generalizing values i with
  | nil => cases hi
  | cons first rest ih =>
      rw [evaluateAll] at h
      obtain ⟨v, hv, h⟩ := exists_of_bind_eq_ok h
      obtain ⟨others, hothers, h⟩ := exists_of_bind_eq_ok h
      cases h
      cases i with
      | zero => cases hi; exact ⟨v, rfl, hv⟩
      | succ i => exact ih hothers hi

/-- **Evaluation leaves nothing out**: what has a value makes only calls that can be made, also in a
branch that is not selected and behind `&&` and `||`. -/
theorem wellCalled_of_evaluate {ctx : Context} {e : Expr} {v : Value} (h : evaluate ctx e = .ok v) :
    WellCalled e := by
  induction e generalizing v with
  | literal => exact .literal _
  | identifier => exact .identifier _
  | unary op operand ih =>
      rw [evaluate] at h
      obtain ⟨w, hw, -⟩ := exists_of_bind_eq_ok h
      exact .unary (ih hw)
  | binary op left right ihleft ihright =>
      rw [evaluate] at h
      obtain ⟨a, ha, h⟩ := exists_of_bind_eq_ok h
      obtain ⟨b, hb, -⟩ := exists_of_bind_eq_ok h
      exact .binary (ihleft ha) (ihright hb)
  | call name args ih =>
      rw [evaluate] at h
      split at h
      · cases h
      · next f hf =>
          split at h
          · next haccepts =>
              obtain ⟨values, hvalues, -⟩ := exists_of_bind_eq_ok h
              refine .call hf haccepts fun arg harg => ?_
              obtain ⟨i, hi⟩ := List.getElem?_of_mem harg
              obtain ⟨w, -, hw⟩ := exists_getElem?_of_evaluateAll hvalues hi
              exact ih arg harg hw
          · cases h

end

/-- A fault of a call: it names no function, or gives one another number of arguments than it takes. -/
inductive Fault.IsCall : Fault → Prop where
  | unknownFunction (name : String) : IsCall (.unknownFunction name)
  | argumentCount (function arity : String) (given : Nat) : IsCall (.argumentCount function arity given)

/-- **Calls are checked exactly.**  Whatever the symbols: where typing reports an error of a call,
evaluation fails in every context, and where it reports none, evaluation fails with none in any. -/
theorem infer_checksCalls [Platform] (symbols : SymbolTable) (e : Expr) :
    ((∃ fault ∈ (infer symbols e).2, fault.isError ∧ fault.IsCall) →
      ∀ ctx, ∃ fault, evaluate ctx e = .error fault) ∧
    ((¬ ∃ fault ∈ (infer symbols e).2, fault.isError ∧ fault.IsCall) →
      ∀ ctx fault, evaluate ctx e = .error fault → ¬ fault.IsCall) := by
  constructor
  · rintro ⟨fault, hfault, -, hcall⟩ ctx
    cases hvalue : evaluate ctx e with
    | error other => exact ⟨other, rfl⟩
    | ok v => exact absurd hcall ((wellCalled_iff symbols).1 (wellCalled_of_evaluate hvalue) fault hfault)
  · intro hnone ctx fault hfails hcall
    have hmade : WellCalled e := (wellCalled_iff symbols).2 fun other hother hcall' =>
      hnone ⟨other, hother, hcall'.isError, hcall'⟩
    cases ((hmade.evaluate_failsOnly ctx).of_error hfails).ofBuiltin <;> cases hcall

open Native

/-- Two calls in a branch that is not selected: `if(true, 1, nope(2))` and `if(true, 1, abs(x))`. -/
theorem infer_checksCalls_unselected :
    let branches (unselected : Expr) : Expr :=
      .call "if" [.literal (.bool true), .literal (.number 1), unselected]
    (∀ ctx, ∃ fault, evaluate ctx (branches (.call "nope" [.literal (.number 2)])) = .error fault) ∧
    ∀ ctx fault, evaluate ctx (branches (.call "abs" [.identifier "x"])) = .error fault → ¬ fault.IsCall := by
  intro branches
  have hnope : (infer .empty (branches (.call "nope" [.literal (.number 2)]))).2 =
      [.unknownFunction "nope"] := by decide +kernel
  have habs : (infer .empty (branches (.call "abs" [.identifier "x"]))).2 =
      [.unknownIdentifier "x"] := by decide +kernel
  refine ⟨(infer_checksCalls .empty _).1 ?_, (infer_checksCalls .empty _).2 ?_⟩
  · rw [hnope]
    exact ⟨_, List.mem_cons_self, rfl, .inl rfl⟩
  · rw [habs]
    rintro ⟨fault, hfault, herror, -⟩
    rw [List.mem_singleton.1 hfault] at herror
    cases herror

end Costing.Formula
