import Mathlib.Data.List.Perm.Subperm
import Costing.Proofs.Formula.Types

/-!
# Formula — unknown types

What typing says of an expression once the types of some symbols are no longer known (`SymbolTable.Forgets`).

* `ValueType.Blurs`: a part keeps its type or has one that is accepted for a number.
* `perm_faults_infer`: the faults of an expression are those of its nodes (`ownFaults`), so two tables are
  compared node by node.
* `subperm_errors_of_forgets`: no error is new, but for those of sums.  A sum with a text is a text, whatever
  the other operand; once the text is not known to be one, the other operand has to be a number
  (`unmaskedFaults`).
* `infer_sum_of_forgotten`: such a sum.
-/

namespace Costing.Formula

/-! ### Less is known -/

/-- A symbol of the same name whose type is the same or unknown. -/
def Symbol.Forgets (known less : Symbol) : Prop :=
  less.name = known.name ∧ (less.type = known.type ∨ less.type = .unknown)

/-- The same names, some of them with an unknown type. -/
def SymbolTable.Forgets (known less : SymbolTable) : Prop :=
  List.Forall₂ Symbol.Forgets known.symbols less.symbols

variable {known less : SymbolTable}

/-- A name means a symbol in both tables or in none. -/
theorem SymbolTable.Forgets.get? (h : known.Forgets less) (name : String) :
    Option.Rel Symbol.Forgets (known.get? name) (less.get? name) := by
  have hreverse : List.Forall₂ Symbol.Forgets known.symbols.reverse less.symbols.reverse :=
    List.forall₂_reverse_iff.2 h
  unfold SymbolTable.get?
  generalize known.symbols.reverse = ss, less.symbols.reverse = ss' at hreverse
  induction hreverse with
  | nil => exact .none
  | @cons s s' _ _ hs _ ih =>
      rw [List.find?_cons, List.find?_cons, hs.1]
      cases s.name == name with
      | true => exact .some hs
      | false => exact ih

namespace ValueType

/-- The second type is the first or is accepted for a number. -/
def Blurs (type type' : ValueType) : Prop :=
  type' = type ∨ type'.isNumericCompatible

theorem Blurs.refl (type : ValueType) : Blurs type type :=
  .inl rfl

theorem Blurs.eq_of_not {type type' : ValueType} (h : Blurs type type') (hnot : ¬ type'.isNumericCompatible) :
    type' = type :=
  h.resolve_right hnot

theorem Blurs.eq_string {type type' : ValueType} (h : Blurs type type') (htype : type' = .string) :
    type = .string := by
  subst htype
  exact (h.eq_of_not Bool.false_ne_true).symm

theorem isNumericCompatible_unify {a b : ValueType} (h : a.isNumericCompatible ∨ b.isNumericCompatible) :
    (unify a b).isNumericCompatible := by
  unfold unify
  split
  · next hab => exact h.elim id fun hb => hab ▸ hb
  · split <;> rfl

theorem Blurs.unify {a b a' b' : ValueType} (ha : Blurs a a') (hb : Blurs b b') :
    Blurs (unify a b) (unify a' b') := by
  rcases ha with rfl | ha
  · rcases hb with rfl | hb
    · exact .refl _
    · exact .inr (isNumericCompatible_unify (.inr hb))
  · exact .inr (isNumericCompatible_unify (.inl ha))

end ValueType

open ValueType (Blurs)

/-- **Every part keeps its type or is accepted for a number.** -/
theorem blurs_infer (h : known.Forgets less) (e : Expr) : Blurs (infer known e).1 (infer less e).1 := by
  induction e with
  | literal => exact .refl _
  | identifier name =>
      rw [infer, infer]
      have hsame := h.get? name
      generalize known.get? name = s?, less.get? name = s'? at hsame
      cases hsame with
      | none => exact .refl _
      | some hs => exact hs.2.imp_right fun hunknown => congrArg ValueType.isNumericCompatible hunknown
  | unary op => cases op <;> exact .refl _
  | binary op left right ihleft ihright =>
      cases op with
      | subtract | multiply | divide | modulo | equal | notEqual | less | lessEqual | greater | greaterEqual
        | and | or => exact .refl _
      | add =>
          rw [type_infer_add, type_infer_add]
          by_cases hless : (infer less left).1 = .string ∨ (infer less right).1 = .string
          · -- A sum that is a text still has an operand that is one, and had it before.
            rw [if_pos hless, if_pos (hless.imp ihleft.eq_string ihright.eq_string)]
            exact .refl _
          · rw [if_neg hless]
            exact .inr rfl
  | call name args ih =>
      cases hf : Builtin.find? name with
      | none =>
          rw [infer, infer]
          simp only [typedCall, hf]
          exact .refl _
      | some f =>
          rw [type_infer_call hf, type_infer_call hf, types_inferAll, types_inferAll]
          unfold Builtin.resultType
          have harg (i : Nat) (missing : ValueType) :
              Blurs ((args.map fun arg => (infer known arg).1)[i]?.getD missing)
                ((args.map fun arg => (infer less arg).1)[i]?.getD missing) := by
            rw [List.getElem?_map, List.getElem?_map]
            cases hi : args[i]? with
            | none => exact .refl _
            | some arg => exact ih arg (List.mem_of_getElem? hi)
          cases f.returns with
          | fixed => exact .refl _
          | branches => exact (harg 1 _).unify (harg 2 _)

/-! ### Faults by nodes -/

/-- The faults of a node itself. -/
def ownFaults (symbols : SymbolTable) : Expr → List TypeFault
  | .literal _ => []
  | .identifier name => (infer symbols (.identifier name)).2
  | .unary op operand => (op.typed (infer symbols operand).1).2
  | .binary op left right => (op.typed (infer symbols left).1 (infer symbols right).1).2
  | .call name args => (typedCall name (inferAll symbols args).1).2

theorem perm_faults_inferAll {symbols : SymbolTable} {args : List Expr}
    (h : ∀ arg ∈ args, (infer symbols arg).2.Perm (arg.nodes.flatMap (ownFaults symbols))) :
    (inferAll symbols args).2.Perm ((args.flatMap Expr.nodes).flatMap (ownFaults symbols)) := by
  induction args with
  | nil => exact .nil
  | cons arg rest ih =>
      obtain ⟨hfirst, hrest⟩ := List.forall_mem_cons.1 h
      rw [inferAll, List.flatMap_cons, List.flatMap_append]
      exact hfirst.append (ih hrest)

/-- **The faults of an expression are those of its nodes.** -/
theorem perm_faults_infer (symbols : SymbolTable) (e : Expr) :
    (infer symbols e).2.Perm (e.nodes.flatMap (ownFaults symbols)) := by
  induction e with
  | literal => exact .nil
  | identifier name =>
      rw [Expr.nodes, List.flatMap_singleton, ownFaults]
  | unary op operand ih =>
      rw [infer, Expr.nodes, List.flatMap_cons, ownFaults]
      exact (ih.append_right _).trans List.perm_append_comm
  | binary op left right ihleft ihright =>
      rw [infer, Expr.nodes, List.flatMap_cons, List.flatMap_append, ownFaults]
      exact ((ihleft.append ihright).append_right _).trans List.perm_append_comm
  | call name args ih =>
      rw [infer, Expr.nodes, List.flatMap_cons, Expr.nodesAll_eq_flatMap, ownFaults]
      exact ((perm_faults_inferAll ih).append_right _).trans List.perm_append_comm

/-- The errors of an expression. -/
def errors (symbols : SymbolTable) (e : Expr) : List TypeFault :=
  (infer symbols e).2.filter TypeFault.isError

theorem perm_errors (symbols : SymbolTable) (e : Expr) :
    (errors symbols e).Perm (e.nodes.flatMap fun node => (ownFaults symbols node).filter TypeFault.isError) := by
  rw [← List.filter_flatMap]
  exact (perm_faults_infer symbols e).filter _

/-! ### One node -/

/-- The second table no longer knows that an expression is a text. -/
def LosesText (known less : SymbolTable) (e : Expr) : Prop :=
  (infer known e).1 = .string ∧ (infer less e).1 ≠ .string

instance (e : Expr) : Decidable (LosesText known less e) :=
  inferInstanceAs (Decidable (_ ∧ _))

/-- The faults of a sum that a text kept from view: about a truth value or an array beside an operand that is
no longer known to be a text. -/
def unmaskedFaults (known less : SymbolTable) : Expr → List TypeFault
  | .binary .add left right =>
    let l := (infer less left).1
    let r := (infer less right).1
    (if LosesText known less right ∧ (l = .bool ∨ l = .array) then [.notNumeric .add l .left] else []) ++
      (if LosesText known less left ∧ (r = .bool ∨ r = .array) then [.notNumeric .add r .right] else [])
  | _ => []

/-- Operands that lose their types have no new faults where numbers are needed. -/
theorem numericFaults_sublist {l l' r r' : ValueType} (hl : Blurs l l') (hr : Blurs r r') (op : BinaryOp) :
    (numericFaults op l' r').Sublist (numericFaults op l r) := by
  have hside {type type' : ValueType} (h : Blurs type type') (side : Side) :
      (if type'.isNumericCompatible then [] else [TypeFault.notNumeric op type' side]).Sublist
        (if type.isNumericCompatible then [] else [TypeFault.notNumeric op type side]) := by
    by_cases hnumeric : type'.isNumericCompatible
    · rw [if_pos hnumeric]
      exact List.nil_sublist _
    · rw [h.eq_of_not hnumeric]
  exact (hside hl .left).append (hside hr .right)

/-- What is accepted neither for a number nor for a text is a truth value or an array. -/
theorem bool_or_array {type : ValueType} (hnumeric : ¬ type.isNumericCompatible) (htext : type ≠ .string) :
    type = .bool ∨ type = .array := by
  cases type with
  | bool => exact .inl rfl
  | array => exact .inr rfl
  | string => exact absurd rfl htext
  | number | any | unknown => exact absurd rfl hnumeric

/-- A sum that was a text and is none has unmasked faults only. -/
theorem numericFaults_sublist_unmasked (h : known.Forgets less) {left right : Expr}
    (hknown : (infer known left).1 = .string ∨ (infer known right).1 = .string)
    (hleft : (infer less left).1 ≠ .string) (hright : (infer less right).1 ≠ .string) :
    (numericFaults .add (infer less left).1 (infer less right).1).Sublist
      (unmaskedFaults known less (.binary .add left right)) := by
  have hside {e other : Expr} (htext : (infer known e).1 = .string ∨ (infer known other).1 = .string)
      (he : (infer less e).1 ≠ .string) (hother : (infer less other).1 ≠ .string) (side : Side) :
      (if (infer less e).1.isNumericCompatible then [] else [TypeFault.notNumeric .add (infer less e).1 side]).Sublist
        (if LosesText known less other ∧ ((infer less e).1 = .bool ∨ (infer less e).1 = .array) then
          [.notNumeric .add (infer less e).1 side] else []) := by
    by_cases hnumeric : (infer less e).1.isNumericCompatible
    · rw [if_pos hnumeric]
      exact List.nil_sublist _
    · -- What is no number kept its type, so the text was the other operand.
      have hsame := (blurs_infer h e).eq_of_not hnumeric
      have hlost := htext.resolve_left fun hstring => he (hsame.trans hstring)
      rw [if_neg hnumeric, if_pos ⟨⟨hlost, hother⟩, bool_or_array hnumeric he⟩]
  exact (hside hknown hleft hright .left).append (hside hknown.symm hright hleft .right)

/-- Every fault of a numeric operator is an error. -/
theorem filter_numericFaults (op : BinaryOp) (l r : ValueType) :
    (numericFaults op l r).filter TypeFault.isError = numericFaults op l r := by
  refine List.filter_eq_self.2 fun fault hfault => ?_
  rw [numericFaults, List.mem_append] at hfault
  rcases hfault with hfault | hfault
  all_goals
    split at hfault
    · exact absurd hfault List.not_mem_nil
    · rw [List.mem_singleton.1 hfault]
      rfl

/-- **A node has no new errors**, but for what is unmasked in a sum. -/
theorem errors_ownFaults_sublist (h : known.Forgets less) (node : Expr) :
    ((ownFaults less node).filter TypeFault.isError).Sublist
      ((ownFaults known node).filter TypeFault.isError ++ unmaskedFaults known less node) := by
  cases node with
  | literal => exact List.nil_sublist _
  | identifier name =>
      rw [ownFaults, infer]
      split <;> exact List.nil_sublist _
  | unary op operand =>
      refine (List.Sublist.filter _ ?_).trans (List.sublist_append_left _ _)
      rw [ownFaults, ownFaults]
      cases op with
      | not => exact List.nil_sublist _
      | negate =>
          dsimp only [UnaryOp.typed]
          by_cases hnumeric : (infer less operand).1.isNumericCompatible
          · rw [if_pos hnumeric]
            exact List.nil_sublist _
          · rw [(blurs_infer h operand).eq_of_not hnumeric]
  | call name args =>
      refine (List.Sublist.filter _ ?_).trans (List.sublist_append_left _ _)
      rw [ownFaults, ownFaults]
      unfold typedCall
      rw [length_inferAll, length_inferAll]
      split <;> exact List.Sublist.refl _
  | binary op left right =>
      rw [ownFaults, ownFaults]
      have hleft := blurs_infer h left
      have hright := blurs_infer h right
      cases op with
      | add =>
          rw [BinaryOp.typed_add, BinaryOp.typed_add]
          by_cases hless : (infer less left).1 = .string ∨ (infer less right).1 = .string
          · rw [if_pos hless]
            exact List.nil_sublist _
          · obtain ⟨hnoleft, hnoright⟩ := not_or.1 hless
            rw [if_neg hless, filter_numericFaults]
            by_cases hknown : (infer known left).1 = .string ∨ (infer known right).1 = .string
            · rw [if_pos hknown]
              exact numericFaults_sublist_unmasked h hknown hnoleft hnoright
            · rw [if_neg hknown, filter_numericFaults]
              exact (numericFaults_sublist hleft hright .add).trans (List.sublist_append_left _ _)
      | subtract | multiply | divide | modulo =>
          exact ((numericFaults_sublist hleft hright _).filter _).trans (List.sublist_append_left _ _)
      | less | lessEqual | greater | greaterEqual =>
          rw [BinaryOp.typed_of_isOrdering rfl]
          dsimp only
          split <;> exact List.nil_sublist _
      | equal | notEqual | and | or => exact List.nil_sublist _

/-! ### All nodes -/

/-- What holds at each element, with repetitions counted, holds of them together. -/
theorem subperm_flatMap {α β : Type} {f g extra : α → List β} {l : List α}
    (h : ∀ a ∈ l, (f a).Subperm (g a ++ extra a)) :
    (l.flatMap f).Subperm (l.flatMap g ++ l.flatMap extra) := by
  refine List.Subperm.trans ?_ (List.flatMap_append_perm l g extra).symm.subperm
  induction l with
  | nil => exact List.Subperm.refl _
  | cons a l ih =>
      obtain ⟨hfirst, hrest⟩ := List.forall_mem_cons.1 h
      exact hfirst.append (ih hrest)

/-- **Knowing less makes no errors but of sums.**  Where the types of some symbols are forgotten, every error is
reported as often as before, or stands at a sum with a truth value or an array, whose other operand was known to
be a text. -/
theorem subperm_errors_of_forgets (h : known.Forgets less) (e : Expr) :
    (errors less e).Subperm (errors known e ++ e.nodes.flatMap (unmaskedFaults known less)) := by
  have hnodes := subperm_flatMap (l := e.nodes) fun node _ => (errors_ownFaults_sublist h node).subperm
  exact (perm_errors less e).subperm.trans (hnodes.trans ((perm_errors known e).symm.append_right _).subperm)

/-- A number, a truth value and a label, which is a text if its type is known. -/
def labelSymbols (label : Option ValueType) : SymbolTable :=
  ((SymbolTable.empty.addInput "width" (some .number) none).addInput "glossy" (some .bool) none).addInput
    "label" label none

theorem forgets_label : (labelSymbols (some .string)).Forgets (labelSymbols none) :=
  .cons ⟨rfl, .inl rfl⟩ (.cons ⟨rfl, .inl rfl⟩ (.cons ⟨rfl, .inr rfl⟩ .nil))

/-- `-glossy * (label + glossy)`: one error is reported in both tables, one of the sum is unmasked, and the
error about the text itself is no longer reported. -/
theorem subperm_errors_label :
    let sum : Expr := .binary .add (.identifier "label") (.identifier "glossy")
    let e : Expr := .binary .multiply (.unary .negate (.identifier "glossy")) sum
    (labelSymbols (some .string)).Forgets (labelSymbols none) ∧
      errors (labelSymbols (some .string)) e = [.negated .bool, .notNumeric .multiply .string .right] ∧
      errors (labelSymbols none) e = [.negated .bool, .notNumeric .add .bool .right] ∧
      (errors (labelSymbols none) e).Subperm (errors (labelSymbols (some .string)) e ++
        e.nodes.flatMap (unmaskedFaults (labelSymbols (some .string)) (labelSymbols none))) :=
  ⟨forgets_label, by decide +kernel, by decide +kernel, subperm_errors_of_forgets forgets_label _⟩

/-- `width + label + glossy` has no error as a text, and one as a sum of numbers. -/
theorem infer_sum_of_forgotten :
    let e : Expr := .binary .add (.binary .add (.identifier "width") (.identifier "label")) (.identifier "glossy")
    (labelSymbols (some .string)).Forgets (labelSymbols none) ∧
      infer (labelSymbols (some .string)) e = (.string, []) ∧
      infer (labelSymbols none) e = (.number, [.notNumeric .add .bool .right]) ∧
      (TypeFault.notNumeric .add .bool .right).isError :=
  ⟨forgets_label, by decide +kernel, by decide +kernel, rfl⟩

end Costing.Formula
