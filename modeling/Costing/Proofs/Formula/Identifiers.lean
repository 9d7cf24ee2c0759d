import Costing.Formula.Eval
import Costing.Native
import Costing.Proofs.Formula.Written

/-!
# Formula — identifiers

What a formula reads of its context.  `Expr.identifiers` collects names by a recursion of its own and drops the
repeated ones; here it is compared with the nodes of the tree and with what evaluation looks up.

* `evaluate_congr`: contexts that agree at the identifier nodes of an expression give it the same value or the
  same fault.
* `identifiers_eq`: the identifiers are the names of the identifier nodes, from left to right, each once.
* `not_literal_of_parseFormula`: in a formula that is read, none of them is the word of a literal.
* `evaluate_reads_identifiers`: all of it.
-/

namespace Costing.Formula

/-! ### First occurrences -/

/-- What is kept of a list without repetitions stands in the order in which it is first met. -/
theorem pairwise_findIdx_eraseDups {α : Type} (f : α → Option String) (l : List α) :
    (l.filterMap f).eraseDups.Pairwise fun x y => l.findIdx (f · == some x) < l.findIdx (f · == some y) := by
  induction l generalizing f with
  | nil => exact .nil
  | cons a l ih =>
      have hskip {x : String} (hx : f a ≠ some x) :
          (a :: l).findIdx (f · == some x) = l.findIdx (f · == some x) + 1 := by
        rw [List.findIdx_cons, beq_false_of_ne hx, cond_false]
      cases hfa : f a with
      | none =>
          rw [List.filterMap_cons_none hfa]
          refine (ih f).imp fun {x y} hlt => ?_
          rw [hskip (hfa ▸ nofun), hskip (hfa ▸ nofun)]
          exact Nat.succ_lt_succ hlt
      | some b =>
          -- The rest is what `f` gives without `b`, where other names have the same places.
          let rest := fun c => (f c).filter fun x => !x == b
          have hplace {x : String} (hx : x ≠ b) : (rest · == some x) = (f · == some x) := by
            funext c
            cases hfc : f c with
            | none => simp [rest, hfc]
            | some y =>
                by_cases hy : y = b
                · simp [rest, hfc, hy, hx.symm]
                · simp [rest, hfc, Option.filter, hy]
          have hne {x : String} (hx : x ∈ (l.filterMap rest).eraseDups) : x ≠ b := by
            obtain ⟨c, -, hc⟩ := List.mem_filterMap.1 (List.mem_eraseDups.1 hx)
            simpa using (Option.filter_eq_some_iff.1 hc).2
          have hshift {x : String} (hx : x ∈ (l.filterMap rest).eraseDups) :
              (a :: l).findIdx (f · == some x) = l.findIdx (rest · == some x) + 1 := by
            rw [hplace (hne hx)]
            exact hskip fun h => hne hx (Option.some.inj (h.symm.trans hfa))
          rw [List.filterMap_cons_some hfa, List.eraseDups_cons, List.filter_filterMap]
          refine List.pairwise_cons.2 ⟨fun y hy => ?_, (ih rest).imp_of_mem fun {x y} hx hy hlt => ?_⟩
          · rw [hshift hy, List.findIdx_cons, hfa, beq_self_eq_true, cond_true]
            exact Nat.succ_pos _
          · rw [hshift hx, hshift hy]
            exact Nat.succ_lt_succ hlt

namespace Expr

/-! ### Names of nodes -/

/-- The name of an identifier node. -/
def name? : Expr → Option String
  | identifier name => some name
  | _ => none

theorem name?_eq_some {e : Expr} {name : String} : e.name? = some name ↔ e = identifier name := by
  cases e <;> simp [name?]

/-- How many nodes stand before the first identifier of a name. -/
def placeOf (e : Expr) (name : String) : Nat :=
  e.nodes.findIdx (name? · == some name)

theorem mentionsAll_eq_flatMap (args : List Expr) : mentionsAll args = args.flatMap mentions := by
  induction args with
  | nil => rfl
  | cons arg rest ih => rw [mentionsAll, ih, List.flatMap_cons]

/-- What is collected are the names of the nodes. -/
theorem mentions_eq (e : Expr) : e.mentions = e.nodes.filterMap name? := by
  induction e with
  | literal | identifier => rfl
  | unary op operand ih => rw [mentions, ih]; rfl
  | binary op left right ihleft ihright =>
      rw [mentions, nodes, List.filterMap_cons_none rfl, List.filterMap_append, ihleft, ihright]
  | call name args ih =>
      rw [mentions, nodes, List.filterMap_cons_none rfl, mentionsAll_eq_flatMap, nodesAll_eq_flatMap,
        List.filterMap_flatMap]
      exact List.flatMap_congr ih

theorem identifiers_eq (e : Expr) : e.identifiers = (e.nodes.filterMap name?).eraseDups := by
  rw [identifiers, mentions_eq]

theorem mem_identifiers {e : Expr} {name : String} : name ∈ e.identifiers ↔ identifier name ∈ e.nodes := by
  rw [identifiers_eq, List.mem_eraseDups, List.mem_filterMap]
  refine ⟨?_, fun h => ⟨_, h, rfl⟩⟩
  rintro ⟨node, hnode, hname⟩
  exact name?_eq_some.1 hname ▸ hnode

/-- Identifiers stand in the order of their first nodes. -/
theorem pairwise_placeOf (e : Expr) : e.identifiers.Pairwise fun x y => e.placeOf x < e.placeOf y := by
  rw [identifiers_eq]
  exact pairwise_findIdx_eraseDups name? e.nodes

theorem nodup_identifiers (e : Expr) : e.identifiers.Nodup := by
  refine e.pairwise_placeOf.imp ?_
  rintro x _ hlt rfl
  exact Nat.lt_irrefl _ hlt

end Expr

/-! ### Two contexts -/

variable {ctx ctx' : Context}

theorem evaluateAll_congr [Platform] {args : List Expr} (h : ∀ arg ∈ args, evaluate ctx arg = evaluate ctx' arg) :
    evaluateAll ctx args = evaluateAll ctx' args := by
  induction args with
  | nil => rfl
  | cons arg rest ih =>
      obtain ⟨hfirst, hrest⟩ := List.forall_mem_cons.1 h
      rw [evaluateAll, evaluateAll, hfirst, ih hrest]

/-- **Evaluation reads identifiers only.** -/
theorem evaluate_congr [Platform] {e : Expr} (h : ∀ x, .identifier x ∈ e.nodes → ctx.get? x = ctx'.get? x) :
    evaluate ctx e = evaluate ctx' e := by
  induction e with
  | literal => rfl
  | identifier name => rw [evaluate, evaluate, h name (Expr.mem_nodes_self _)]
  | unary op operand ih =>
      rw [evaluate, evaluate, ih fun x hx => h x (List.mem_cons_of_mem _ hx)]
  | binary op left right ihleft ihright =>
      rw [evaluate, evaluate,
        ihleft fun x hx => h x (List.mem_cons_of_mem _ (List.mem_append_left _ hx)),
        ihright fun x hx => h x (List.mem_cons_of_mem _ (List.mem_append_right _ hx))]
  | call name args ih =>
      have hargs : evaluateAll ctx args = evaluateAll ctx' args := evaluateAll_congr fun arg harg =>
        ih arg harg fun x hx => h x <| List.mem_cons_of_mem _ <| by
          rw [Expr.nodesAll_eq_flatMap]
          exact List.mem_flatMap.2 ⟨arg, harg, hx⟩
      rw [evaluate, evaluate, hargs]

/-! ### Words of literals -/

/-- A name that is mentioned is no literal. -/
theorem Derives.not_literal {ts : List Token} {p : Phrase} (h : Derives ts p) {name : String}
    (hname : name ∈ p.mentions) : name ∉ literalNames.map Prod.fst := by
  induction h with
  | operand _ ih | primary _ ih | unary _ _ _ ih | callWith _ _ _ _ ih | parentheses _ _ _ ih => exact ih hname
  | lastArgument _ ih =>
      rw [Phrase.mentions, Expr.mentionsAll, Expr.mentionsAll, List.append_nil] at hname
      exact ih hname
  | binary _ _ _ _ ihleft ihright | argument _ _ _ ihleft ihright =>
      rcases List.mem_append.1 hname with hname | hname
      · exact ihleft hname
      · exact ihright hname
  | number | string | literal | call => cases hname
  | identifier _ hnot =>
      rw [Phrase.mentions, Expr.mentions, List.mem_singleton] at hname
      exact hname ▸ hnot

theorem not_literal_of_parseFormula {formula : String} {e : Expr} (h : parseFormula formula = .ok e)
    {name : String} (hname : name ∈ e.identifiers) : name ∉ literalNames.map Prod.fst := by
  obtain ⟨_, -, -, hderives⟩ := exists_of_parseFormula h
  exact hderives.not_literal (List.mem_eraseDups.1 hname)

/-! ### What evaluation reads -/

/-- **Evaluation reads only the identifiers.**  Contexts with the same entry, or none, for each of them give an
expression the same value or fault.  They are the names of the identifier nodes, no other name, each once, in the
order of their first nodes; no word of a literal is one in a formula that is read. -/
theorem evaluate_reads_identifiers [Platform] (e : Expr) :
    (∀ ctx ctx' : Context, (∀ x ∈ e.identifiers, ctx.get? x = ctx'.get? x) → evaluate ctx e = evaluate ctx' e) ∧
    (∀ x, x ∈ e.identifiers ↔ .identifier x ∈ e.nodes) ∧
    e.identifiers.Nodup ∧
    (e.identifiers.Pairwise fun x y => e.placeOf x < e.placeOf y) ∧
    ∀ formula, parseFormula formula = .ok e → ∀ x ∈ e.identifiers, x ∉ literalNames.map Prod.fst := by
  refine ⟨fun ctx ctx' h => ?_, fun x => Expr.mem_identifiers, e.nodup_identifiers, e.pairwise_placeOf, ?_⟩
  · exact evaluate_congr fun x hx => h x (Expr.mem_identifiers.2 hx)
  · exact fun formula hparse x hx => not_literal_of_parseFormula hparse hx

open Native

/-- `max(width, true, width * len(max))`, where `width` and `max` are read and `len` is called only. -/
theorem evaluate_reads_identifiers_called :
    let e : Expr := .call "max" [.identifier "width", .literal (.bool true),
      .binary .multiply (.identifier "width") (.call "len" [.identifier "max"])]
    let ctx : Context := (Dict.empty.put "width" (.number 3)).put "max" (.string "ab")
    let ctx' : Context := (ctx.put "len" (.number 7)).put "true" .null
    e.identifiers = ["width", "max"] ∧ (∀ x ∈ e.identifiers, ctx.get? x = ctx'.get? x) ∧
      evaluate ctx e = evaluate ctx' e := by
  intro e ctx ctx'
  have hsame : ∀ x ∈ e.identifiers, ctx.get? x = ctx'.get? x := by
    rw [show e.identifiers = ["width", "max"] by decide +kernel]
    intro x hx
    simp only [List.mem_cons, List.not_mem_nil, or_false] at hx
    rcases hx with rfl | rfl <;> rfl
  exact ⟨by decide +kernel, hsame, (evaluate_reads_identifiers e).1 ctx ctx' hsame⟩

end Costing.Formula
