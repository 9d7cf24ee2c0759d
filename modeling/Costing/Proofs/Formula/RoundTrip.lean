import Costing.Native
import Costing.Proofs.Formula.Parse
import Costing.Proofs.Formula.Scan
import Costing.Proofs.Number.ReadBack

/-!
# Formula — printing and reading back

A tree that was parsed is printed as a text that is parsed to the same tree, unless it nests too deep.

* `Printable`: the trees that formulas have.  Literals are finite numbers without a minus sign, strings
  and the literal names; all other names are words that are no operators.
* `Derives.printable`: what tokens of a text derive is printable, if its numbers are finite.
* `Printable.lexes`: the text of a printable tree is scanned to tokens that derive the tree.
* `parseFormula_render`: so the text of a parsed tree is parsed to that tree, or nests too deep.
-/

namespace Costing.Formula

/-! ### The number literals of a tree -/

namespace Expr

/-- The number literals. -/
def numbers (e : Expr) : List Float :=
  e.nodes.filterMap fun
    | literal (.number x) => some x
    | _ => none

theorem renderAll_eq_map [Json.Codec] (args : List Expr) : renderAll args = args.map render := by
  induction args with
  | nil => rfl
  | cons arg rest ih => rw [renderAll, ih, List.map_cons]

theorem numbers_unary (op : UnaryOp) (operand : Expr) : (unary op operand).numbers = operand.numbers := by
  simp [numbers, nodes]

theorem numbers_binary (op : BinaryOp) (left right : Expr) :
    (binary op left right).numbers = left.numbers ++ right.numbers := by
  simp [numbers, nodes]

theorem numbers_call (name : String) (args : List Expr) :
    (call name args).numbers = args.flatMap numbers := by
  simp only [numbers, nodes, nodesAll_eq_flatMap, List.filterMap_cons, List.filterMap_flatMap]
  rfl

end Expr

/-! ### The trees that formulas have -/

/-- Trees that are read back from their text. -/
inductive Printable : Expr → Prop where
  | number {x : Float} : x.isFinite → Number.isNegative x = false → Printable (.literal (.number x))
  | string (s : String) : Printable (.literal (.string s))
  | literal {name : String} {v : Value} : (name, v) ∈ literalNames → Printable (.literal v)
  | identifier {name : String} :
      IsName name → name ∉ literalNames.map Prod.fst → Printable (.identifier name)
  | unary {op : UnaryOp} {operand : Expr} : Printable operand → Printable (.unary op operand)
  | binary {op : BinaryOp} {left right : Expr} :
      Printable left → Printable right → Printable (.binary op left right)
  | call {name : String} {args : List Expr} :
      IsName name → (∀ arg ∈ args, Printable arg) → Printable (.call name args)

/-- What holds of the trees in a phrase. -/
def Phrase.All (P : Expr → Prop) : Phrase → Prop
  | .tree _ e => P e
  | .arguments args => ∀ arg ∈ args, P arg

/-- The numbers of a tree are finite. -/
def FiniteNumbers (e : Expr) : Prop :=
  ∀ x ∈ e.numbers, x.isFinite

/-- Tokens of a text derive printable trees only. -/
theorem Derives.printable {ts : List Token} {p : Phrase} (h : Derives ts p)
    (hspelled : ∀ t ∈ ts, Spelled t.kind t.text) (hfinite : p.All FiniteNumbers) : p.All Printable := by
  have hname {t : Token} (hkind : t.kind = .identifier) (ht : Spelled t.kind t.text) : IsName t.text := by
    rwa [hkind] at ht
  induction h with
  | operand _ ih | primary _ ih => exact ih hspelled hfinite
  | binary _ _ _ _ ihleft ihright =>
      rw [List.forall_mem_append, List.forall_mem_cons] at hspelled
      simp only [Phrase.All, FiniteNumbers, Expr.numbers_binary, List.forall_mem_append] at hfinite
      exact .binary (ihleft hspelled.1 hfinite.1) (ihright hspelled.2.2 hfinite.2)
  | unary _ _ _ ih =>
      rw [List.forall_mem_cons] at hspelled
      simp only [Phrase.All, FiniteNumbers, Expr.numbers_unary] at hfinite
      exact .unary (ih hspelled.2 hfinite)
  | @number t x hkind hread =>
      have ht := hspelled t List.mem_cons_self
      rw [hkind] at ht
      exact .number (hfinite x List.mem_cons_self) (Number.isNegative_of_read? ht hread)
  | string => exact .string _
  | literal _ hmem => exact .literal hmem
  | identifier hkind hnot => exact .identifier (hname hkind (hspelled _ List.mem_cons_self)) hnot
  | call hkind => exact .call (hname hkind (hspelled _ List.mem_cons_self)) nofun
  | callWith hkind _ _ _ ih =>
      rw [List.forall_mem_cons, List.forall_mem_cons, List.forall_mem_append] at hspelled
      simp only [Phrase.All, FiniteNumbers, Expr.numbers_call, List.forall_mem_flatMap] at hfinite
      exact .call (hname hkind hspelled.1) (ih hspelled.2.2.1 hfinite)
  | parentheses _ _ _ ih =>
      rw [List.forall_mem_cons, List.forall_mem_append] at hspelled
      exact ih hspelled.2.1 hfinite
  | lastArgument _ ih =>
      intro arg harg
      rw [List.mem_singleton] at harg
      subst harg
      exact ih hspelled (hfinite _ List.mem_cons_self)
  | argument _ _ _ ihfirst ihrest =>
      rw [List.forall_mem_append, List.forall_mem_cons] at hspelled
      rw [Phrase.All, List.forall_mem_cons] at hfinite ⊢
      exact ⟨ihfirst hspelled.1 hfinite.1, ihrest hspelled.2.2 hfinite.2⟩

/-! ### The text of a tree -/

theorem isName_of_mem_literalNames [Json.Codec] {name : String} {v : Value} (h : (name, v) ∈ literalNames) :
    IsName name ∧ Expr.literalText v = name := by
  simp only [literalNames, List.mem_cons, Prod.mk.injEq, List.not_mem_nil, or_false] at h
  obtain ⟨rfl, rfl⟩ | ⟨rfl, rfl⟩ | ⟨rfl, rfl⟩ := h
  · have hchars : ∀ d ∈ ['r', 'u', 'e'], isNameChar d := List.all_eq_true.1 (by decide)
    exact ⟨⟨'t', ['r', 'u', 'e'], rfl, by decide, hchars, by decide +kernel⟩, rfl⟩
  · have hchars : ∀ d ∈ ['a', 'l', 's', 'e'], isNameChar d := List.all_eq_true.1 (by decide)
    exact ⟨⟨'f', ['a', 'l', 's', 'e'], rfl, by decide, hchars, by decide +kernel⟩, rfl⟩
  · have hchars : ∀ d ∈ ['u', 'l', 'l'], isNameChar d := List.all_eq_true.1 (by decide)
    exact ⟨⟨'n', ['u', 'l', 'l'], rfl, by decide, hchars, by decide +kernel⟩, rfl⟩

namespace Printable

variable [Json.Codec]

/-- No text begins with an equals sign. -/
theorem exists_render {e : Expr} (h : Printable e) : ∃ c cs, e.render.toList = c :: cs ∧ c ≠ '=' := by
  have hname {name : String} (h : IsName name) : ∃ c cs, name.toList = c :: cs ∧ c ≠ '=' := by
    obtain ⟨c, cs, hcs, hc, -⟩ := h
    exact ⟨c, cs, hcs, by rintro rfl; exact absurd hc (by decide)⟩
  cases h with
  | number hfinite hx =>
      obtain ⟨c, cs, hcs, hc⟩ := (Number.numberText_isNumeral hfinite hx).exists_cons
      exact ⟨c, cs, hcs, by rintro rfl; exact absurd hc (by decide)⟩
  | string s =>
      rw [Expr.render, Expr.literalText, Expr.quote, String.toList_ofList]
      exact ⟨'"', _, rfl, by decide⟩
  | literal hmem =>
      obtain ⟨hword, htext⟩ := isName_of_mem_literalNames hmem
      rw [Expr.render, htext]
      exact hname hword
  | identifier hword _ => exact hname hword
  | @unary op operand _ =>
      rw [Expr.render, String.toList_append]
      cases op <;> exact ⟨_, _, rfl, by decide⟩
  | binary =>
      simp only [Expr.render, String.toList_append]
      exact ⟨'(', _, rfl, by decide⟩
  | call hword _ =>
      obtain ⟨c, cs, hcs, hc⟩ := hname hword
      simp only [Expr.render, String.toList_append, hcs]
      exact ⟨c, _, rfl, hc⟩

/-- The text of a tree is scanned to tokens that derive it. -/
def LexesAs (e : Expr) : Prop :=
  ∀ rest, Ends rest → Lexes e.render.toList rest fun ts => Derives ts (.tree .unary e)

/-- The texts of arguments, separated by commas, are scanned to tokens that derive them. -/
theorem lexes_arguments {args : List Expr} (hne : args ≠ []) (h : ∀ arg ∈ args, LexesAs arg)
    {rest : List Char} (hrest : Ends rest) :
    Lexes (", ".intercalate (args.map Expr.render)).toList rest fun ts => Derives ts (.arguments args) := by
  induction args with
  | nil => exact absurd rfl hne
  | cons arg args ih =>
      rw [List.forall_mem_cons] at h
      cases args with
      | nil =>
          rw [List.map_singleton, String.intercalate_singleton]
          exact (h.1 rest hrest).mono fun ts hts => .lastArgument (hts.loosen (by decide))
      | cons next args =>
          have hothers := ih (List.cons_ne_nil _ _) h.2
          have hafter : Lexes (',' :: ' ' :: (", ".intercalate ((next :: args).map Expr.render)).toList) rest
              fun ts => ∃ t us, ts = t :: us ∧ t.is .comma "," ∧ Derives us (.arguments (next :: args)) := by
            refine Lexes.comma.append hothers.cons_blank ?_
            rintro _ us ⟨t, rfl, his⟩ hus
            exact ⟨t, us, rfl, his, hus⟩
          have htext : (", ".intercalate ((arg :: next :: args).map Expr.render)).toList =
              arg.render.toList ++
                ',' :: ' ' :: (", ".intercalate ((next :: args).map Expr.render)).toList := by
            simp [String.intercalate_cons_cons]
          rw [htext]
          refine (h.1 _ (.cons (by decide) (by decide) _)).append hafter ?_
          rintro ts _ hts ⟨t, us, rfl, his, hus⟩
          exact .argument (hts.loosen (by decide)) his hus

/-- The text of a binary operation is scanned to its operands and its operator, in parentheses. -/
theorem lexes_binary {op : BinaryOp} {left right : Expr} (hleft : LexesAs left) (hright : LexesAs right) :
    LexesAs (.binary op left right) := by
  intro rest hrest
  have hafter : Lexes (op.symbol.toList ++ ' ' :: right.render.toList) (')' :: rest) fun ts =>
      ∃ t us, ts = t :: us ∧ t.is .operator op.symbol ∧ Derives us (.tree .unary right) := by
    refine (Lexes.binaryOp op).append (hright _ (.cons (by decide) (by decide) _)).cons_blank ?_
    rintro _ us ⟨t, rfl, his⟩ hus
    exact ⟨t, us, rfl, his, hus⟩
  have hinner : Lexes (left.render.toList ++ ' ' :: (op.symbol.toList ++ ' ' :: right.render.toList))
      (')' :: rest) fun ts => Derives ts (.tree .expression (.binary op left right)) := by
    refine (hleft _ (.cons (by decide) (by decide) _)).append hafter.cons_blank ?_
    rintro ts _ hts ⟨t, us, rfl, his, hus⟩
    have hmem : (op.symbol, op) ∈ op.level.operators := Level.mem_operators.2 ⟨rfl, rfl⟩
    have hbinary := Derives.binary (hts.loosen (by cases op <;> decide)) his hmem
      (hus.loosen (by cases op <;> decide))
    exact hbinary.loosen (by cases op <;> decide)
  have htext : (Expr.binary op left right).render.toList =
      '(' :: (left.render.toList ++ ' ' :: (op.symbol.toList ++ ' ' :: right.render.toList) ++ [')']) := by
    simp [Expr.render]
  rw [htext]
  refine hinner.parenthesized.mono ?_
  rintro _ ⟨o, us, c, rfl, ho, hus, hc⟩
  exact .primary (.parentheses ho hus hc)

/-- The text of a call is scanned to its name and, in parentheses, its arguments. -/
theorem lexes_call {name : String} {args : List Expr} (hname : IsName name) (h : ∀ arg ∈ args, LexesAs arg) :
    LexesAs (.call name args) := by
  intro rest hrest
  have htext : (Expr.call name args).render.toList =
      name.toList ++ '(' :: ((", ".intercalate (args.map Expr.render)).toList ++ [')']) := by
    simp [Expr.render, Expr.renderAll_eq_map]
  rw [htext]
  have hword (cs : List Char) : Lexes name.toList ('(' :: cs) (Lexes.IsToken .identifier name) :=
    Lexes.word hname (.cons (by decide) (by decide) _)
  cases args with
  | nil =>
      refine (hword _).append Lexes.nil.parenthesized ?_
      rintro _ _ ⟨t, rfl, his⟩ ⟨o, _, c, rfl, ho, rfl, hc⟩
      obtain ⟨hkind, rfl⟩ := Token.is_iff.1 his
      exact .primary (.call hkind ho hc)
  | cons arg args =>
      have hclose : Ends (')' :: rest) := .cons (by decide) (by decide) _
      have hargs := lexes_arguments (List.cons_ne_nil arg args) h hclose
      refine (hword _).append hargs.parenthesized ?_
      rintro _ _ ⟨t, rfl, his⟩ ⟨o, us, c, rfl, ho, hus, hc⟩
      obtain ⟨hkind, rfl⟩ := Token.is_iff.1 his
      exact .primary (.callWith hkind ho hus hc)

/-- **The text of a printable tree is scanned to tokens that derive the tree.** -/
theorem lexes {e : Expr} (h : Printable e) : LexesAs e := by
  induction h with
  | number hfinite hx =>
      intro rest hrest
      refine (Lexes.numeral (Number.numberText_isNumeral hfinite hx) hrest).mono ?_
      rintro ts ⟨t, rfl, his⟩
      obtain ⟨hkind, htext⟩ := Token.is_iff.1 his
      exact .primary (.number hkind (htext ▸ Number.read?_numberText hfinite hx))
  | string s =>
      intro rest _
      refine (Lexes.quoted s).mono ?_
      rintro ts ⟨t, rfl, his⟩
      obtain ⟨hkind, rfl⟩ := Token.is_iff.1 his
      exact .primary (.string hkind)
  | literal hmem =>
      intro rest hrest
      obtain ⟨hword, htext⟩ := isName_of_mem_literalNames hmem
      rw [Expr.render, htext]
      refine (Lexes.word hword hrest).mono ?_
      rintro ts ⟨t, rfl, his⟩
      exact .primary (.literal his hmem)
  | identifier hword hnot =>
      intro rest hrest
      refine (Lexes.word hword hrest).mono ?_
      rintro ts ⟨t, rfl, his⟩
      obtain ⟨hkind, rfl⟩ := Token.is_iff.1 his
      exact .primary (.identifier hkind hnot)
  | @unary op operand hoperand ih =>
      intro rest hrest
      obtain ⟨c, cs, hcs, hc⟩ := hoperand.exists_render
      rw [Expr.render, String.toList_append]
      have hop : Lexes op.symbol.toList (operand.render.toList ++ rest)
          (Lexes.IsToken .operator op.symbol) := by
        rw [hcs]
        exact Lexes.unaryOp op hc
      refine hop.append (ih rest hrest) ?_
      rintro _ us ⟨t, rfl, his⟩ hus
      exact .unary his (mem_unaryOperators.2 (by cases op <;> rfl)) hus
  | binary _ _ ihleft ihright => exact lexes_binary ihleft ihright
  | call hname _ ih => exact lexes_call hname ih

end Printable

/-- **Printing undoes parsing**: the text of a parsed tree, if its numbers are finite, is parsed to that
tree or nests too deep. -/
theorem parseFormula_render [Json.Codec] {formula : String} {e : Expr} (h : parseFormula formula = .ok e)
    (hfinite : ∀ x ∈ e.numbers, x.isFinite) :
    parseFormula e.render = .ok e ∨ parseFormula e.render = .error (.malformed .tooDeep) := by
  obtain ⟨ts, hscan, hparse⟩ := exists_of_bind_eq_ok h
  have hprintable : Printable e := (derives_of_parse hparse).printable (scan_spelled hscan) hfinite
  obtain ⟨us, hderives, hscan'⟩ := (hprintable.lexes [] .nil).scan
  unfold parseFormula
  rw [hscan']
  exact parse_of_derives (hderives.loosen (by decide))

/-- A formula with a call, prefix operators, a number and quotes in a string. -/
def sampleFormula : String := "max(-2.5, '\"') + !ok"

/-- The tree of the sample. -/
def sampleTree : Expr :=
  .binary .add (.call "max" [.unary .negate (.literal (.number 2.5)), .literal (.string "\"")])
    (.unary .not (.identifier "ok"))

theorem scan_sampleFormula : Token.scan sampleFormula = .ok
    [⟨.identifier, "max", 0⟩, ⟨.paren, "(", 3⟩, ⟨.operator, "-", 4⟩, ⟨.number, "2.5", 5⟩,
      ⟨.comma, ",", 8⟩, ⟨.string, "\"", 10⟩, ⟨.paren, ")", 13⟩, ⟨.operator, "+", 15⟩,
      ⟨.operator, "!", 17⟩, ⟨.identifier, "ok", 18⟩] := by
  decide +kernel

theorem parseFormula_sampleFormula : parseFormula sampleFormula = .ok sampleTree := by
  unfold parseFormula
  rw [scan_sampleFormula]
  with_unfolding_all rfl

open Native

/-- The sample is printed as a text that is parsed to the same tree, or nests too deep. -/
theorem parseFormula_render_sampleTree :
    parseFormula sampleFormula = .ok sampleTree ∧ (∀ x ∈ sampleTree.numbers, x.isFinite) ∧
    (parseFormula sampleTree.render = .ok sampleTree ∨
      parseFormula sampleTree.render = .error (.malformed .tooDeep)) := by
  have hfinite : ∀ x ∈ sampleTree.numbers, x.isFinite := by decide +kernel
  exact ⟨parseFormula_sampleFormula, hfinite, parseFormula_render parseFormula_sampleFormula hfinite⟩

end Costing.Formula
