import Costing.Native
import Costing.Proofs.Formula.Faults

/-!
# Formula — types and values

What the type inferred for an expression says of its value, in a context that fits the symbols (`Fits`).

* `Builtin.ofValue_apply`: a function returns what its return type says, if that is a truth value, an array
  or a number; `getPrice` alone may return null for a number.
* `ofValue_evaluate`: a truth value and an array are what is inferred to be one, whatever stands inside.  A
  sum is inferred to be a number also where an operand is not known, which may be a text, so a number is only
  certain of expressions whose parts are all known (`Exact`).
* `evaluate_typed`: the three types one by one.
-/

namespace Costing.Formula

/-! ### Types of values -/

namespace ValueType

theorem ofValue_eq_bool {v : Value} (h : ofValue v = bool) : ∃ b, v = .bool b := by
  cases v with
  | bool b => exact ⟨b, rfl⟩
  | null | number | string | array | record => cases h

theorem ofValue_eq_array {v : Value} (h : ofValue v = array) : ∃ items, v = .array items := by
  cases v with
  | array items => exact ⟨items, rfl⟩
  | null | bool | number | string | record => cases h

theorem ofValue_eq_number {v : Value} (h : ofValue v = number) : ∃ x, v = .number x := by
  cases v with
  | number x => exact ⟨x, rfl⟩
  | null | bool | string | array | record => cases h

/-- The common type of two branches is known only if it is the type of both. -/
theorem eq_of_unify {a b type : ValueType} (h : unify a b = type) (hknown : type.isConcrete) :
    a = type ∧ b = type := by
  unfold unify at h
  split at h
  · next hab => exact ⟨h, hab ▸ h⟩
  · split at h <;> (subst h; cases hknown)

theorem ne_of_isConcrete {type other : ValueType} (h : type.isConcrete) (hother : other.isConcrete = false) :
    other ≠ type := by
  rintro rfl
  rw [hother] at h
  cases h

end ValueType

/-- A sum of what is no text is a number. -/
theorem ofValue_add [Json.Codec] {a b : Value} (ha : ValueType.ofValue a ≠ .string) (hb : ValueType.ofValue b ≠ .string) :
    ValueType.ofValue (add a b) = .number := by
  have hnone : eitherString a b = false := by
    cases a with
    | string => exact absurd rfl ha
    | null | bool | number | array | record =>
        cases b with
        | string => exact absurd rfl hb
        | null | bool | number | array | record => rfl
  unfold add
  split
  · rfl
  · rw [hnone]
    rfl

/-! ### Functions -/

theorem Builtin.eq_if_of_returns {f : Builtin} (h : f.returns = .branches) : f = .if := by
  cases f <;> first | rfl | cases h

/-- **A function returns what its return type says**, if that is a truth value, an array, or a number that is
no price. -/
theorem Builtin.ofValue_apply [Platform] {f : Builtin} {type : ValueType} {args : Arguments} {v : Value}
    (hf : f.returns = .fixed type) (htype : type = .bool ∨ type = .array ∨ type = .number ∧ f ≠ .getPrice)
    (h : f.apply args = .ok v) : ValueType.ofValue v = type := by
  cases f with
  | abs | ceil | contains | floor | len | toNumber =>
      cases hf
      cases h
      rfl
  | split =>
      cases hf
      cases h
      unfold applySplit
      split <;> rfl
  | max | min =>
      cases hf
      rw [apply, applyExtreme] at h
      split at h
      · cases h
      · cases h
        rfl
  | round =>
      cases hf
      rw [apply, applyRound] at h
      split at h
      all_goals
        obtain ⟨_, -, h⟩ := exists_of_bind_eq_ok h
        cases h
        rfl
  | regexMatch =>
      cases hf
      obtain ⟨_, -, h⟩ := exists_of_bind_eq_ok h
      cases h
      rfl
  | getPrice =>
      cases hf
      rcases htype with htype | htype | ⟨-, hno⟩
      · cases htype
      · cases htype
      · exact absurd rfl hno
  | get | join | lower | regexExtract | replace | toString | trim | upper =>
      cases hf
      rcases htype with htype | htype | ⟨htype, -⟩ <;> cases htype
  | «if» => cases hf

/-! ### Expressions -/

variable {symbols : SymbolTable} {ctx : Context} {e : Expr}

/-- Each symbol whose type is known is in the context, with a value of that type. -/
def Fits (symbols : SymbolTable) (ctx : Context) : Prop :=
  ∀ name s, symbols.get? name = some s → s.type.isConcrete →
    ∃ v, ctx.get? name = some v ∧ ValueType.ofValue v = s.type

/-- The types of all parts of an expression are known, and none looks up a price, however it is written. -/
def Exact (symbols : SymbolTable) (e : Expr) : Prop :=
  (∀ part ∈ e.nodes, (infer symbols part).1.isConcrete) ∧ ∀ name ∈ e.calls, name.toLower ≠ "getprice"

theorem Exact.of_subset {part : Expr} (h : Exact symbols e) (hsub : ∀ node ∈ part.nodes, node ∈ e.nodes) :
    Exact symbols part := by
  refine ⟨fun node hnode => h.1 node (hsub node hnode), fun name hname => h.2 name ?_⟩
  obtain ⟨node, hnode, hcall⟩ := List.mem_filterMap.1 hname
  exact List.mem_filterMap.2 ⟨node, hsub node hnode, hcall⟩

theorem Exact.of_mem_args {name : String} {args : List Expr} (h : Exact symbols (.call name args)) {arg : Expr}
    (harg : arg ∈ args) : Exact symbols arg := by
  refine h.of_subset fun node hnode => ?_
  rw [Expr.nodes, Expr.nodesAll_eq_flatMap]
  exact List.mem_cons_of_mem _ (List.mem_flatMap.2 ⟨arg, harg, hnode⟩)

/-- An exact call calls no price. -/
theorem Exact.ne_getPrice {name : String} {args : List Expr} {f : Builtin} (h : Exact symbols (.call name args))
    (hf : Builtin.find? name = some f) : f ≠ .getPrice := by
  rintro rfl
  have hname : Builtin.getPrice.name.toLower = name.toLower := by simpa using List.find?_some hf
  refine h.2 name ?_ (hname.symm.trans (by decide +kernel))
  exact List.mem_filterMap.2 ⟨_, List.mem_cons_self, rfl⟩

/-- The value of an expression is of its type: a truth value and an array always are, a number is if the
expression is exact. -/
def KeepsType (symbols : SymbolTable) (e : Expr) : Prop :=
  let type := (infer symbols e).1
  type = .bool ∨ type = .array ∨ type = .number ∧ Exact symbols e

theorem Exact.keepsType (h : Exact symbols e) (hno : (infer symbols e).1 ≠ .string) : KeepsType symbols e := by
  have hknown := h.1 e e.mem_nodes_self
  unfold KeepsType
  cases htype : (infer symbols e).1 with
  | bool => exact .inl rfl
  | array => exact .inr (.inl rfl)
  | number => exact .inr (.inr ⟨rfl, h⟩)
  | string => exact absurd htype hno
  | any | unknown => rw [htype] at hknown; cases hknown

theorem KeepsType.isConcrete (h : KeepsType symbols e) : (infer symbols e).1.isConcrete := by
  rcases h with h | h | ⟨h, -⟩ <;> (rw [h]; rfl)

/-- A branch of the type of the whole keeps to its type as the whole does. -/
theorem KeepsType.of_mem_args {name : String} {args : List Expr} (h : KeepsType symbols (.call name args))
    {arg : Expr} (harg : arg ∈ args) (htype : (infer symbols arg).1 = (infer symbols (.call name args)).1) :
    KeepsType symbols arg := by
  unfold KeepsType
  rw [htype]
  exact h.imp_right (Or.imp_right (And.imp_right fun hexact => hexact.of_mem_args harg))

theorem types_inferAll (symbols : SymbolTable) (args : List Expr) :
    (inferAll symbols args).1 = args.map fun arg => (infer symbols arg).1 := by
  induction args with
  | nil => rfl
  | cons arg rest ih => rw [inferAll, List.map_cons, ← ih]

/-- An argument at a place where a known type is inferred. -/
theorem exists_arg_of_type {args : List Expr} {i : Nat} {type other : ValueType}
    (h : (inferAll symbols args).1[i]?.getD other = type) (hother : other ≠ type) :
    ∃ arg, args[i]? = some arg ∧ (infer symbols arg).1 = type := by
  rw [types_inferAll, List.getElem?_map] at h
  cases hi : args[i]? with
  | none => rw [hi] at h; exact absurd h hother
  | some arg => rw [hi] at h; exact ⟨arg, rfl, h⟩

theorem BinaryOp.typed_add (l r : ValueType) :
    BinaryOp.add.typed l r = if l = .string ∨ r = .string then (.string, []) else (.number, numericFaults .add l r) :=
  rfl

theorem BinaryOp.typed_of_isOrdering {op : BinaryOp} (hop : op.isOrdering) (l r : ValueType) :
    op.typed l r = (.bool, if l.isConcrete && r.isConcrete && l != r then [.compared l r op] else []) := by
  cases op with
  | less | lessEqual | greater | greaterEqual => rfl
  | add | subtract | multiply | divide | modulo | equal | notEqual | and | or => cases hop

/-- A sum is of type string if an operand is, else a number. -/
theorem type_infer_add (symbols : SymbolTable) (left right : Expr) :
    (infer symbols (.binary .add left right)).1 =
      if (infer symbols left).1 = .string ∨ (infer symbols right).1 = .string then .string else .number := by
  rw [infer]
  dsimp only
  rw [BinaryOp.typed_add]
  split <;> rfl

/-- The value of a call is what its function gives for the values of the arguments. -/
theorem exists_apply_of_evaluate [Platform] {name : String} {args : List Expr} {v : Value}
    (h : evaluate ctx (.call name args) = .ok v) :
    ∃ f values, Builtin.find? name = some f ∧ evaluateAll ctx args = .ok values ∧ f.apply values = .ok v := by
  rw [evaluate] at h
  split at h
  · cases h
  · next f hf =>
      split at h
      · obtain ⟨values, hvalues, happly⟩ := exists_of_bind_eq_ok h
        exact ⟨f, values, hf, hvalues, happly⟩
      · cases h

theorem type_infer_call {name : String} {f : Builtin} (hf : Builtin.find? name = some f) (symbols : SymbolTable)
    (args : List Expr) :
    (infer symbols (.call name args)).1 = f.resultType (inferAll symbols args).1 := by
  rw [infer]
  dsimp only [typedCall]
  rw [hf]

/-- A branch has the type of its `if`, where that is known. -/
theorem exists_value_of_branch [Platform] {args : List Expr} {values : List Value} {i : Nat} {type other : ValueType}
    (hvalues : evaluateAll ctx args = .ok values) (h : (inferAll symbols args).1[i]?.getD other = type)
    (hother : other ≠ type) :
    ∃ arg ∈ args, (infer symbols arg).1 = type ∧ evaluate ctx arg = .ok (Arguments.nth values i) := by
  obtain ⟨arg, harg, htype⟩ := exists_arg_of_type h hother
  obtain ⟨v, hv, heval⟩ := exists_getElem?_of_evaluateAll hvalues harg
  refine ⟨arg, List.mem_of_getElem? harg, htype, ?_⟩
  rw [Arguments.nth, hv]
  exact heval

/-- **The value has the inferred type**, if the expression keeps to it. -/
theorem ofValue_evaluate [Platform] (hctx : Fits symbols ctx) {v : Value} (hkeeps : KeepsType symbols e)
    (h : evaluate ctx e = .ok v) : ValueType.ofValue v = (infer symbols e).1 := by
  induction e generalizing v with
  | literal w =>
      rw [evaluate] at h
      cases h
      rfl
  | identifier name =>
      have hknown := hkeeps.isConcrete
      rw [evaluate] at h
      rw [infer] at hknown ⊢
      cases hs : symbols.get? name with
      | none => rw [hs] at hknown; cases hknown
      | some s =>
          rw [hs] at hknown
          obtain ⟨w, hw, htype⟩ := hctx name s hs hknown
          rw [hw] at h
          cases h
          exact htype
  | unary op operand _ =>
      rw [evaluate] at h
      obtain ⟨w, -, h⟩ := exists_of_bind_eq_ok h
      cases h
      rw [infer]
      cases op <;> rfl
  | binary op left right ihleft ihright =>
      rw [evaluate] at h
      obtain ⟨a, ha, h⟩ := exists_of_bind_eq_ok h
      obtain ⟨b, hb, h⟩ := exists_of_bind_eq_ok h
      cases h
      cases op with
      | subtract | multiply | divide | modulo | equal | notEqual | less | lessEqual | greater | greaterEqual
        | and | or => rw [infer]; rfl
      | add =>
          have hsum := type_infer_add symbols left right
          split at hsum
          · rcases hkeeps with hk | hk | ⟨hk, -⟩ <;> (rw [hsum] at hk; cases hk)
          · next hno =>
              -- An operand of an exact sum is no text either: its type is known, and it keeps to it.
              have hexact : Exact symbols (.binary .add left right) := by
                rcases hkeeps with hk | hk | ⟨-, hexact⟩
                · rw [hsum] at hk; cases hk
                · rw [hsum] at hk; cases hk
                · exact hexact
              have hleft : Exact symbols left := hexact.of_subset fun node hnode =>
                List.mem_cons_of_mem _ (List.mem_append_left _ hnode)
              have hright : Exact symbols right := hexact.of_subset fun node hnode =>
                List.mem_cons_of_mem _ (List.mem_append_right _ hnode)
              rw [hsum]
              refine ofValue_add ?_ ?_
              · rw [ihleft (hleft.keepsType fun hs => hno (.inl hs)) ha]
                exact fun hs => hno (.inl hs)
              · rw [ihright (hright.keepsType fun hs => hno (.inr hs)) hb]
                exact fun hs => hno (.inr hs)
  | call name args ih =>
      obtain ⟨f, values, hf, hvalues, happly⟩ := exists_apply_of_evaluate h
      have htype := type_infer_call hf symbols args
      have hknown := hkeeps.isConcrete
      rw [Builtin.resultType] at htype
      cases hreturns : f.returns with
      | fixed type =>
          rw [hreturns] at htype
          dsimp only at htype
          rw [htype]
          refine Builtin.ofValue_apply hreturns ?_ happly
          rw [← htype]
          exact hkeeps.imp_right (Or.imp_right (And.imp_right fun hexact => hexact.ne_getPrice hf))
      | branches =>
          rw [hreturns] at htype
          dsimp only at htype
          obtain ⟨hthen, helse⟩ := ValueType.eq_of_unify htype.symm hknown
          obtain rfl := Builtin.eq_if_of_returns hreturns
          obtain ⟨first, hfirst, htfirst, hvfirst⟩ :=
            exists_value_of_branch hvalues hthen (ValueType.ne_of_isConcrete hknown rfl)
          obtain ⟨second, hsecond, htsecond, hvsecond⟩ :=
            exists_value_of_branch hvalues helse (ValueType.ne_of_isConcrete hknown rfl)
          cases happly
          split
          · rw [ih first hfirst (hkeeps.of_mem_args hfirst htfirst) hvfirst, htfirst]
          · rw [ih second hsecond (hkeeps.of_mem_args hsecond htsecond) hvsecond, htsecond]

/-! ### Sound types -/

/-- **Inferred types are sound.**  In a context that fits the symbols, whatever an expression evaluates to is a
truth value or an array if that is inferred, and a number if that is inferred and the types of all parts are
known and no price is looked up. -/
theorem evaluate_typed [Platform] (hctx : Fits symbols ctx) {v : Value} (h : evaluate ctx e = .ok v) :
    ((infer symbols e).1 = .bool → ∃ b, v = .bool b) ∧
    ((infer symbols e).1 = .array → ∃ items, v = .array items) ∧
    ((infer symbols e).1 = .number → Exact symbols e → ∃ x, v = .number x) := by
  refine ⟨fun htype => ?_, fun htype => ?_, fun htype hexact => ?_⟩
  · exact ValueType.ofValue_eq_bool ((ofValue_evaluate hctx (.inl htype) h).trans htype)
  · exact ValueType.ofValue_eq_array ((ofValue_evaluate hctx (.inr (.inl htype)) h).trans htype)
  · exact ValueType.ofValue_eq_number ((ofValue_evaluate hctx (.inr (.inr ⟨htype, hexact⟩)) h).trans htype)

/-- A number, a truth value, a list and an input of no known type. -/
def panelSymbols : SymbolTable :=
  (((SymbolTable.empty.addInput "width" (some .number) none).addInput "round" (some .bool) none).addVar
    "holes" .array).addInput "note" none none

/-- Values for them; the note is left out. -/
def panelContext : Context :=
  ((Dict.empty.put "width" (.number 3)).put "round" (.bool true)).put "holes" (.array [.string "left", .null])

theorem fits_panel : Fits panelSymbols panelContext := by
  intro name s hs hknown
  have hmem : s ∈ panelSymbols.symbols := List.mem_reverse.1 (List.mem_of_find?_eq_some hs)
  have hname : s.name = name := by simpa using List.find?_some hs
  subst hname
  change s ∈ [_, _, _, _] at hmem
  simp only [List.mem_cons, List.not_mem_nil, or_false] at hmem
  rcases hmem with rfl | rfl | rfl | rfl
  · exact ⟨_, rfl, rfl⟩
  · exact ⟨_, rfl, rfl⟩
  · exact ⟨_, rfl, rfl⟩
  · cases hknown

open Native

/-- `if(round, width + len(holes), 2)`, all of whose parts are known, and `split(note)`. -/
theorem evaluate_typed_panel :
    let area : Expr := .call "if" [.identifier "round",
      .binary .add (.identifier "width") (.call "len" [.identifier "holes"]), .literal (.number 2)]
    let words : Expr := .call "split" [.identifier "note"]
    Fits panelSymbols panelContext ∧ Exact panelSymbols area ∧
      (∃ v, evaluate panelContext area = .ok v ∧ ∃ x, v = .number x) ∧
      ∃ v, evaluate panelContext words = .ok v ∧ ∃ items, v = .array items := by
  intro area words
  have hexact : Exact panelSymbols area := ⟨by decide +kernel, by decide +kernel⟩
  have hif : Builtin.find? "if" = some .if := by decide +kernel
  have hlen : Builtin.find? "len" = some .len := by decide +kernel
  have hsplit : Builtin.find? "split" = some .split := by decide +kernel
  have harea : evaluate panelContext area = .ok (.number (3 + Float.ofNat 2)) := by
    simp only [area, evaluate, evaluateAll, hif, hlen]
    rfl
  have hwords : evaluate panelContext words = .ok (.array []) := by
    simp only [words, evaluate, evaluateAll, hsplit]
    rfl
  exact ⟨fits_panel, hexact,
    ⟨_, harea, (evaluate_typed fits_panel harea).2.2 (by decide +kernel) hexact⟩,
    ⟨_, hwords, (evaluate_typed fits_panel hwords).2.1 (by decide +kernel)⟩⟩

end Costing.Formula
