import Mathlib
import Costing.Proofs.Formula.Parse

/-!
# Formula — how high parsed trees are

The parser counts levels of nesting up to `maxDepth`, and takes those of a chain of operators back when the
chain is complete.  What has been read of a chain then becomes a left operand, and an operand before others of
its chain lies deeper in the tree than they do, while the parser counts it before them: so a tree can be higher
than the count ever was.

* `Bounded`: a reader comes back to the depth it starts from, and trees that a `Condition` holds of are no higher
  than the levels left allow.
* `Bounded.level`: without a condition, a chain adds as many levels as are left.  Six chains and a call for each
  level of nesting are `highest`, and bound the height of expressions (`readExpression_bounded`).
* `Bounded.level_rising`: a chain adds no level if no operand of it is higher than the next one.
* `Derives.height_le`: whatever the parser counts, a tree is no higher than its tokens have operators and opening
  parentheses.
* `height_of_parseFormula`: so a parsed tree is at most `3 * maxDepth ^ 2 - 2 * maxDepth` high, and at most
  `maxDepth` if all of its chains rise or if it has few operators.
-/

namespace Costing.Formula

/-! ### Height -/

namespace Expr

mutual

/-- The most operators and calls on a way from the root to a leaf. -/
def height : Expr → Nat
  | literal _ | identifier _ => 0
  | unary _ operand => operand.height + 1
  | binary _ left right => max left.height right.height + 1
  | call _ args => heightAll args + 1

/-- The greatest height of arguments. -/
def heightAll : List Expr → Nat
  | [] => 0
  | arg :: rest => max arg.height (heightAll rest)

end

/-- The last operand of a chain of a level; a tree that is none is an operand itself. -/
def lastOperand (l : Level) : Expr → Expr
  | binary op left right => if op.level = l then right else binary op left right
  | e => e

/-- In every chain, no operand is higher than the next one. -/
inductive Rising : Expr → Prop where
  | literal (v : Value) : Rising (literal v)
  | identifier (name : String) : Rising (identifier name)
  | unary {op : UnaryOp} {operand : Expr} : Rising operand → Rising (unary op operand)
  | binary {op : BinaryOp} {left right : Expr} : Rising left → Rising right →
      (left.lastOperand op.level).height ≤ right.height → Rising (binary op left right)
  | call {name : String} {args : List Expr} : (∀ arg ∈ args, Rising arg) → Rising (call name args)

theorem height_ofName (name : String) : (ofName name).height = 0 := by
  unfold ofName
  split <;> rfl

theorem lastOperand_binary {l : Level} {op : BinaryOp} (h : op.level = l) (left right : Expr) :
    (binary op left right).lastOperand l = right :=
  if_pos h

end Expr

/-- A token that a level of nesting can come from: an operator, or an opening parenthesis. -/
def Token.nests (t : Token) : Bool :=
  t.kind == .operator || t.is .paren "("

theorem Token.nests_of_is {t : Token} {kind : TokenKind} {text : String} (h : t.is kind text)
    (hnests : kind = .operator ∨ kind = .paren ∧ text = "(") : t.nests := by
  obtain ⟨rfl, rfl⟩ := Token.is_iff.1 h
  rcases hnests with hkind | ⟨hkind, htext⟩
  · simp [nests, hkind]
  · simp [nests, Token.is, hkind, htext]

/-- The height of a tree, or the greatest height of arguments. -/
def Phrase.height : Phrase → Nat
  | .tree _ e => e.height
  | .arguments args => Expr.heightAll args

/-- A phrase is no higher than there are tokens of it that a level can come from. -/
theorem Derives.height_le {ts : List Token} {p : Phrase} (h : Derives ts p) :
    p.height ≤ ts.countP Token.nests := by
  induction h with
  | operand _ ih | primary _ ih => exact ih
  | number | string | literal | identifier => exact Nat.zero_le _
  | binary _ his _ _ ihleft ihright =>
      have ht := Token.nests_of_is his (.inl rfl)
      simp only [Phrase.height, Expr.height, List.countP_append, List.countP_cons_of_pos ht] at *
      omega
  | unary his _ _ ih =>
      have ht := Token.nests_of_is his (.inl rfl)
      simp only [Phrase.height, Expr.height, List.countP_cons_of_pos ht] at *
      omega
  | call _ hopen _ =>
      have ht := Token.nests_of_is hopen (.inr ⟨rfl, rfl⟩)
      simp only [Phrase.height, Expr.height, Expr.heightAll, List.countP_cons, ht, if_true]
      omega
  | callWith _ hopen _ _ ih =>
      have ht := Token.nests_of_is hopen (.inr ⟨rfl, rfl⟩)
      simp only [Phrase.height, Expr.height, List.countP_cons, List.countP_append, ht, if_true] at *
      omega
  | parentheses _ _ _ ih =>
      simp only [Phrase.height, List.countP_cons, List.countP_append] at *
      omega
  | lastArgument _ ih => exact Nat.max_le.2 ⟨ih, Nat.zero_le _⟩
  | argument _ _ _ ih ihrest =>
      simp only [Phrase.height, Expr.heightAll, List.countP_cons, List.countP_append] at *
      omega

/-- An operation of a looser level than the layer it is derived at is a primary: it is in parentheses. -/
theorem Derives.primary_of_binary {ts : List Token} {layer : Layer} {op : BinaryOp} {l r : Expr}
    (h : Derives ts (.tree layer (.binary op l r))) (hrank : (Layer.chain op.level).rank < layer.rank) :
    Derives ts (.tree .primary (.binary op l r)) := by
  generalize hp : Phrase.tree layer (.binary op l r) = p at h
  -- by the layers that the tree is an operand of, down to the one that it is read at
  induction h generalizing layer with
  | @operand level _ _ _ ih =>
      cases hp
      exact ih (hrank.trans (level.rank_operand ▸ Nat.lt_succ_self _)) rfl
  | binary _ _ hmem =>
      cases hp
      exact absurd ((Level.of_mem_operators _ _ hmem).2 ▸ hrank) (Nat.lt_irrefl _)
  | primary h => cases hp; exact h
  | parentheses hopen h hclose => cases hp; exact .parentheses hopen h hclose
  | _ => cases hp

/-! ### Conditions -/

/-- An operation in parentheses comes before an operator of its own level. -/
def Regroups (ts : List Token) : Prop :=
  ∃ group t rest op l r, group ++ t :: rest <:+ ts ∧
    Derives group (.tree .primary (.binary op l r)) ∧ t.binaryOp? op.level ≠ none

theorem Regroups.exists_opening {ts : List Token} (h : Regroups ts) : ∃ t ∈ ts, t.is .paren "(" := by
  obtain ⟨group, t, rest, op, l, r, hsuffix, hgroup, -⟩ := h
  cases hgroup with
  | parentheses hopen => exact ⟨_, hsuffix.subset (List.mem_append_left _ (List.mem_cons_self ..)), hopen⟩

/-- A condition on tokens that goes over to what follows them, and one on trees that goes over to their parts. -/
structure Condition where
  tokens : List Token → Prop
  tree : Expr → Prop
  suffix {ts rest : List Token} : rest <:+ ts → tokens ts → tokens rest
  operand {op : UnaryOp} {e : Expr} : tree (.unary op e) → tree e
  left {op : BinaryOp} {l r : Expr} : tree (.binary op l r) → tree l
  right {op : BinaryOp} {l r : Expr} : tree (.binary op l r) → tree r
  arg {name : String} {args : List Expr} : tree (.call name args) → ∀ arg ∈ args, tree arg

namespace Condition

/-- No condition. -/
def none : Condition where
  tokens _ := True
  tree _ := True
  suffix _ _ := trivial
  operand _ := trivial
  left _ := trivial
  right _ := trivial
  arg _ _ _ := trivial

/-- All chains rise, and parentheses take none of them apart. -/
def rising : Condition where
  tokens ts := ¬ Regroups ts
  tree := Expr.Rising
  suffix hrest hts := by
    rintro ⟨group, t, rest, op, l, r, hsuffix, h⟩
    exact hts ⟨group, t, rest, op, l, r, hsuffix.trans hrest, h⟩
  operand h := by cases h with | unary h => exact h
  left h := by cases h with | binary h _ _ => exact h
  right h := by cases h with | binary _ h _ => exact h
  arg h := by cases h with | call h => exact h

end Condition

/-- The layer that levels begin with, if prefix operators come after them. -/
def Layer.top : List Level → Layer
  | [] => .unary
  | l :: _ => .chain l

/-- Levels each of which has the next one as its operands. -/
def Stacked : List Level → Prop
  | [] => True
  | l :: ls => l.operand = .top ls ∧ Stacked ls

theorem stacked_all : Stacked Level.all :=
  ⟨rfl, rfl, rfl, rfl, rfl, rfl, trivial⟩

/-! ### Readers -/

/-- A reader of a layer that comes back to its depth, and whose trees have a height that the levels left bound,
if the condition holds of them and of the tokens to come. -/
structure Bounded (cond : Condition) (layer : Layer) (reader : Reader Expr) (bound : Nat → Nat) : Prop where
  reads : ReadsAs reader layer
  of_ok {c c' : Cursor} {e : Expr} : reader c = .ok (e, c') → c.depth ≤ maxDepth → c'.depth = c.depth ∧
    (cond.tokens c.rest → cond.tree e → e.height ≤ bound (maxDepth - c.depth))

theorem ReadsAs.suffix {reader : Reader Expr} {layer : Layer} (h : ReadsAs reader layer) {c c' : Cursor}
    {e : Expr} (hread : reader c = .ok (e, c')) : c'.rest <:+ c.rest := by
  obtain ⟨used, hused, -⟩ := (h.sound hread).derives
  exact ⟨used, hused.symm⟩

/-- An operand before an operator of a level is no operation of the level, if no parentheses are around one. -/
theorem ReadsAs.lastOperand_eq {operand : Reader Expr} {l : Level} (h : ReadsAs operand l.operand)
    {c c' : Cursor} {e : Expr} (hread : operand c = .ok (e, c')) (htokens : ¬ Regroups c.rest)
    (hnext : nextBinary? c'.rest l ≠ none) : e.lastOperand l = e := by
  obtain ⟨used, hused, hderives⟩ := (h.sound hread).derives
  cases e with
  | literal | identifier | unary | call => rfl
  | binary op left right =>
      refine if_neg fun hlevel => htokens ?_
      subst hlevel
      have hgroup := hderives.primary_of_binary (op.level.rank_operand ▸ Nat.lt_succ_self _)
      cases hrest : c'.rest with
      | nil => exact absurd (hrest ▸ rfl) hnext
      | cons t rest =>
          rw [hrest] at hused hnext
          exact ⟨used, t, rest, op, left, right, hused ▸ List.suffix_refl _, hgroup, hnext⟩

namespace Cursor

theorem depth_of_descend {c c' : Cursor} (h : c.descend = .ok c') :
    c'.depth = c.depth + 1 ∧ c.depth + 1 ≤ maxDepth := by
  unfold descend at h
  split at h
  · cases h
  · next hle => cases h; exact ⟨rfl, Nat.le_of_not_lt hle⟩

theorem depth_of_expect {c c' : Cursor} {kind : TokenKind} {text : String} (h : c.expect kind text = .ok c') :
    c'.depth = c.depth := by
  unfold expect at h
  split at h
  · cases h
  · split at h
    · cases h; rfl
    · cases h

theorem suffix_of_expect {c c' : Cursor} {kind : TokenKind} {text : String} (h : c.expect kind text = .ok c') :
    c'.rest <:+ c.rest := by
  obtain ⟨t, -, hrest⟩ := of_expect h
  exact hrest ▸ List.suffix_cons t c'.rest

theorem depth_of_closeCall {name : String} {args : List Expr} {c c' : Cursor} {e : Expr}
    (h : ReadsAs.closeCall name (args, c) = .ok (e, c')) : e = .call name args ∧ c'.depth = c.depth := by
  unfold ReadsAs.closeCall at h
  dsimp only at h
  split at h
  · cases h
  · obtain ⟨c₁, h₁, h⟩ := exists_of_bind_eq_ok h
    cases h
    exact ⟨rfl, depth_of_expect h₁⟩

end Cursor

namespace Bounded

variable {cond : Condition} {operand : Reader Expr} {bound : Nat → Nat} {l : Level}

/-! ### Chains -/

/-- What an operator and its operand, one level deeper for each operator before, keep of what has been read of
a chain, all of the chain keeps. -/
theorem readChain (h : Bounded cond l.operand operand bound) {P : Nat → Expr → Prop} {depth : Nat}
    (hstep : ∀ n op left right, op.level = l → depth + n + 1 ≤ maxDepth → P n left →
      (cond.tree right → right.height ≤ bound (maxDepth - (depth + n + 1))) →
      P (n + 1) (.binary op left right))
    {fuel n m : Nat} {left e : Expr} {c c' : Cursor} (hdepth : c.depth = depth + n) (hle : c.depth ≤ maxDepth)
    (hread : Formula.readChain l operand fuel left n c = .ok (e, m, c')) :
    c'.depth = depth + m ∧ c'.depth ≤ maxDepth ∧ (cond.tokens c.rest → P n left → P m e) := by
  -- an operator at a time; what has been read becomes the left operand of the next one
  induction fuel generalizing left n c with
  | zero =>
      cases hnext : nextBinary? c.rest l with
      | none =>
          cases (ReadsAs.readChain_of_none hnext).symm.trans hread
          exact ⟨hdepth, hle, fun _ hleft => hleft⟩
      | some op =>
          obtain ⟨t, rest, hrest, hop⟩ := exists_of_nextBinary? hnext
          cases (ReadsAs.readChain_zero hrest hop).symm.trans hread
  | succ fuel ih =>
      cases hnext : nextBinary? c.rest l with
      | none =>
          cases (ReadsAs.readChain_of_none hnext).symm.trans hread
          exact ⟨hdepth, hle, fun _ hleft => hleft⟩
      | some op =>
          obtain ⟨t, rest, hrest, hop⟩ := exists_of_nextBinary? hnext
          rw [ReadsAs.readChain_succ hrest hop] at hread
          obtain ⟨c₁, h₁, hread⟩ := exists_of_bind_eq_ok hread
          obtain ⟨⟨right, c₂⟩, h₂, hread⟩ := exists_of_bind_eq_ok hread
          obtain ⟨symbol, -, hmem⟩ := Token.binaryOp?_eq_some.1 hop
          obtain ⟨hdeeper, hle₁⟩ := Cursor.depth_of_descend h₁
          dsimp only at hdeeper hle₁ hread
          have hdepth₁ : c₁.depth = depth + n + 1 := hdeeper.trans (congrArg (· + 1) hdepth)
          obtain ⟨hkeep, hright⟩ := h.of_ok h₂ (hdeeper.trans_le hle₁)
          obtain ⟨hdepth', hle', hchain⟩ := ih (hkeep.trans hdepth₁) (hkeep.trans_le (hdeeper.trans_le hle₁)) hread
          refine ⟨hdepth', hle', fun htokens hleft => ?_⟩
          -- what is left after the operator, and after its operand, is what the condition goes over to
          have hrest₁ : c₁.rest <:+ c.rest :=
            (Cursor.rest_of_descend h₁).symm ▸ hrest ▸ List.suffix_cons t rest
          have htokens₁ := cond.suffix hrest₁ htokens
          refine hchain (cond.suffix (h.reads.suffix h₂) htokens₁) ?_
          refine hstep n op left right (Level.of_mem_operators l _ hmem).2 ?_ hleft fun htree => ?_
          · exact hdepth₁ ▸ hdeeper.trans_le hle₁
          · exact hdepth₁ ▸ hright htokens₁ htree

/-- Operands between operators of a level: a chain adds at most the levels left. -/
theorem level (h : Bounded cond l.operand operand bound) (hmono : Monotone bound) :
    Bounded cond (.chain l) (readLevel l operand) fun m => bound m + m := by
  refine ⟨h.reads.level, fun {c c' e} hread hle => ?_⟩
  obtain ⟨⟨first, c₁⟩, h₁, hread⟩ := exists_of_bind_eq_ok hread
  obtain ⟨⟨e, m, c₂⟩, h₂, hread⟩ := exists_of_bind_eq_ok hread
  obtain ⟨hkeep, hfirst⟩ := h.of_ok h₁ hle
  let P n left := cond.tree left → left.height ≤ bound (maxDepth - c.depth) + n
  have hstep n op left right (_ : op.level = l) (hn : c.depth + n + 1 ≤ maxDepth) (hleft : P n left)
      (hright : cond.tree right → right.height ≤ bound (maxDepth - (c.depth + n + 1))) :
      P (n + 1) (.binary op left right) := by
    intro htree
    -- the operand has one level less for every operator before it
    have hbound : bound (maxDepth - (c.depth + n + 1)) ≤ bound (maxDepth - c.depth) := hmono (by omega)
    have hleft := hleft (cond.left htree)
    have hright := hright (cond.right htree)
    rw [Expr.height]
    omega
  obtain ⟨hdepth, hle₂, hchain⟩ := h.readChain hstep hkeep (hkeep.trans_le hle) h₂
  cases hread
  refine ⟨?_, fun htokens htree => ?_⟩
  · show c₂.depth - m = c.depth
    rw [hdepth, Nat.add_sub_cancel]
  · have htokens₁ := cond.suffix (h.reads.suffix h₁) htokens
    refine (hchain htokens₁ (hfirst htokens) htree).trans (Nat.add_le_add_left ?_ _)
    exact Nat.le_sub_of_add_le (Nat.add_comm m _ ▸ hdepth ▸ hle₂)

/-- A chain that rises adds no level: its last operand is the deepest for the parser, and all others are so much
higher in the tree at most as they come before it. -/
theorem level_rising (h : Bounded .rising l.operand operand (· + 1)) :
    Bounded .rising (.chain l) (readLevel l operand) (· + 1) := by
  refine ⟨h.reads.level, fun {c c' e} hread hle => ?_⟩
  obtain ⟨⟨first, c₁⟩, h₁, hread⟩ := exists_of_bind_eq_ok hread
  obtain ⟨⟨e, m, c₂⟩, h₂, hread⟩ := exists_of_bind_eq_ok hread
  obtain ⟨hkeep, hfirst⟩ := h.of_ok h₁ hle
  let P n (left : Expr) := left.Rising → left.height ≤ (left.lastOperand l).height + n ∧
    c.depth + n + (left.lastOperand l).height ≤ maxDepth + 1
  have hstep n op left right (hop : op.level = l) (hn : c.depth + n + 1 ≤ maxDepth) (hleft : P n left)
      (hright : right.Rising → right.height ≤ maxDepth - (c.depth + n + 1) + 1) :
      P (n + 1) (.binary op left right) := by
    intro hrising
    obtain ⟨hheight, -⟩ := hleft (Condition.rising.left hrising)
    have hright := hright (Condition.rising.right hrising)
    cases hrising with
    | binary _ _ hrises =>
        -- the new operand takes the place of the one that was the last, and is at least as high
        rw [hop] at hrises
        rw [Expr.lastOperand_binary hop, Expr.height]
        omega
  obtain ⟨hdepth, hle₂, hchain⟩ := h.readChain hstep hkeep (hkeep.trans_le hle) h₂
  cases hread
  refine ⟨?_, fun htokens hrising => ?_⟩
  · show c₂.depth - m = c.depth
    rw [hdepth, Nat.add_sub_cancel]
  · -- the first operand may be an operation of the level in parentheses only if nothing comes after it
    cases hnext : nextBinary? c₁.rest l with
    | none =>
        cases (ReadsAs.readChain_of_none hnext).symm.trans h₂
        exact hfirst htokens hrising
    | some op =>
        have hoperand : first.lastOperand l = first := h.reads.lastOperand_eq h₁ htokens (hnext ▸ nofun)
        have htokens₁ := Condition.rising.suffix (h.reads.suffix h₁) htokens
        have hstart : P 0 first := by
          intro hrising
          have hfirst := hfirst htokens hrising
          rw [hoperand]
          omega
        obtain ⟨hheight, hlast⟩ := hchain htokens₁ hstart hrising
        show e.height ≤ maxDepth - c.depth + 1
        omega

/-- Expressions of some levels of operators. -/
theorem levels {tightest : Reader Expr} (h : Bounded cond .unary tightest bound) (hmono : Monotone bound)
    {ls : List Level} (hls : Stacked ls) :
    Bounded cond (.top ls) (readLevels tightest ls) fun m => bound m + ls.length * m := by
  induction ls with
  | nil =>
      show Bounded cond .unary tightest _
      simpa using h
  | cons l ls ih =>
      obtain ⟨hnext, hls⟩ := hls
      have hmono' : Monotone fun m => bound m + ls.length * m := fun a b hab =>
        Nat.add_le_add (hmono hab) (Nat.mul_le_mul_left _ hab)
      have hlevel := level (hnext ▸ ih hls) hmono'
      have hbound : (fun m => bound m + ls.length * m + m) = fun m => bound m + (l :: ls).length * m := by
        funext m
        rw [List.length_cons, Nat.succ_mul, Nat.add_assoc]
      exact hbound ▸ hlevel

theorem levels_rising {tightest : Reader Expr} (h : Bounded .rising .unary tightest (· + 1)) {ls : List Level}
    (hls : Stacked ls) : Bounded .rising (.top ls) (readLevels tightest ls) (· + 1) := by
  induction ls with
  | nil => exact h
  | cons l ls ih => exact level_rising (hls.1 ▸ ih hls.2)

/-! ### Primaries and prefix operators -/

section Primary

variable {expression : Reader Expr} (h : Bounded cond .expression expression bound)

include h

theorem readArguments {fuel : Nat} {args : List Expr} {c c' : Cursor} (hle : c.depth ≤ maxDepth)
    (hread : Formula.readArguments expression fuel c = .ok (args, c')) :
    c'.depth = c.depth ∧ (cond.tokens c.rest → (∀ arg ∈ args, cond.tree arg) →
      Expr.heightAll args ≤ bound (maxDepth - c.depth)) := by
  induction fuel generalizing c c' args with
  | zero => cases hread
  | succ fuel ih =>
      obtain ⟨⟨arg, c₁⟩, h₁, hread⟩ := exists_of_bind_eq_ok hread
      obtain ⟨hkeep, harg⟩ := h.of_ok h₁ hle
      have hsuffix := h.reads.suffix h₁
      dsimp only at hread
      split at hread
      · obtain ⟨⟨rest, c₂⟩, h₂, hread⟩ := exists_of_bind_eq_ok hread
        obtain ⟨hkeep₂, hrest⟩ : c₂.depth = c₁.depth ∧ (cond.tokens c₁.rest.tail →
            (∀ arg ∈ rest, cond.tree arg) → Expr.heightAll rest ≤ bound (maxDepth - c₁.depth)) :=
          ih (c := ⟨c₁.rest.tail, c₁.depth⟩) (hkeep.trans_le hle) h₂
        cases hread
        refine ⟨hkeep₂.trans hkeep, fun htokens htree => ?_⟩
        obtain ⟨htree, htrees⟩ := List.forall_mem_cons.1 htree
        have htokens₁ := cond.suffix ((List.tail_suffix _).trans hsuffix) htokens
        exact Nat.max_le.2 ⟨harg htokens htree, hkeep ▸ hrest htokens₁ htrees⟩
      · cases hread
        refine ⟨hkeep, fun htokens htree => ?_⟩
        exact Nat.max_le.2 ⟨harg htokens (List.forall_mem_singleton.1 htree), Nat.zero_le _⟩

theorem readGiven {args : List Expr} {c c' : Cursor} (hle : c.depth ≤ maxDepth)
    (hread : ReadsAs.readGiven expression c = .ok (args, c')) :
    c'.depth = c.depth ∧ (cond.tokens c.rest → (∀ arg ∈ args, cond.tree arg) →
      Expr.heightAll args ≤ bound (maxDepth - c.depth)) := by
  unfold ReadsAs.readGiven at hread
  split at hread
  · cases hread; exact ⟨rfl, fun _ _ => Nat.zero_le _⟩
  · exact h.readArguments hle hread

theorem readCall {name : String} {c c' : Cursor} {e : Expr} (hle : c.depth ≤ maxDepth)
    (hread : Formula.readCall expression name c = .ok (e, c')) :
    c'.depth = c.depth ∧ (cond.tokens c.rest → cond.tree e → e.height ≤ bound (maxDepth - c.depth) + 1) := by
  rw [ReadsAs.readCall_eq] at hread
  obtain ⟨c₁, h₁, hread⟩ := exists_of_bind_eq_ok hread
  obtain ⟨⟨args, c₂⟩, h₂, hread⟩ := exists_of_bind_eq_ok hread
  have hopen := Cursor.depth_of_expect h₁
  obtain ⟨hgiven, hargs⟩ := h.readGiven (hopen.trans_le hle) h₂
  obtain ⟨rfl, hclose⟩ := Cursor.depth_of_closeCall hread
  rw [hopen] at hgiven hargs
  refine ⟨hclose.trans hgiven, fun htokens htree => Nat.add_le_add_right ?_ 1⟩
  exact hargs (cond.suffix (Cursor.suffix_of_expect h₁) htokens) (cond.arg htree)

/-- A primary: at most a call around arguments. -/
theorem primary : Bounded cond .primary (readPrimary expression) fun m => bound m + 1 := by
  refine ⟨h.reads.primary, fun {c c' e} hread hle => ?_⟩
  unfold readPrimary at hread
  split at hread
  · cases hread
  · next t rest hrest =>
      have hsuffix : rest <:+ c.rest := hrest ▸ List.suffix_cons t rest
      dsimp only at hread
      split at hread
      · split at hread
        · cases hread; exact ⟨rfl, fun _ _ => Nat.zero_le _⟩
        · cases hread
      · cases hread; exact ⟨rfl, fun _ _ => Nat.zero_le _⟩
      · split at hread
        · obtain ⟨hkeep, hcall⟩ := h.readCall (c := ⟨rest, c.depth⟩) hle hread
          exact ⟨hkeep, fun htokens => hcall (cond.suffix hsuffix htokens)⟩
        · cases hread
          exact ⟨rfl, fun _ _ => (Expr.height_ofName _).trans_le (Nat.zero_le _)⟩
      · split at hread
        · obtain ⟨⟨e, c₁⟩, h₁, hread⟩ := exists_of_bind_eq_ok hread
          obtain ⟨c₂, h₂, hread⟩ := exists_of_bind_eq_ok hread
          obtain ⟨hkeep, hheight⟩ := h.of_ok h₁ hle
          cases hread
          refine ⟨(Cursor.depth_of_expect h₂).trans hkeep, fun htokens htree => ?_⟩
          exact Nat.le_succ_of_le (hheight (cond.suffix hsuffix htokens) htree)
        · cases hread
      all_goals cases hread

/-- Prefix operators: each of them takes a level from what follows it. -/
theorem unary (hstep : ∀ m, bound m + 1 ≤ bound (m + 1)) :
    Bounded cond .unary (readUnary expression) fun m => bound m + 1 := by
  refine ⟨h.reads.unary, fun {c c' e} hread hle => ?_⟩
  obtain ⟨ts, depth⟩ := c
  replace hread : readUnaryFrom expression depth ts = .ok (e, c') := hread
  induction ts generalizing depth e c' with
  | nil => exact h.primary.of_ok hread hle
  | cons t rest ih =>
      unfold readUnaryFrom at hread
      split at hread
      · exact h.primary.of_ok hread hle
      · next op hop =>
          obtain ⟨deeper, h₁, hread⟩ := exists_of_bind_eq_ok hread
          obtain ⟨⟨operand, c₁⟩, h₂, hread⟩ := exists_of_bind_eq_ok hread
          obtain ⟨hdeeper, hle₁⟩ := Cursor.depth_of_descend h₁
          obtain ⟨hkeep, hoperand⟩ := ih deeper.depth (hdeeper.trans_le hle₁) h₂
          cases hread
          dsimp only at hdeeper hle₁ hkeep hoperand hle ⊢
          rw [hdeeper] at hkeep hoperand
          refine ⟨?_, fun htokens htree => Nat.succ_le_succ ?_⟩
          · show c₁.depth - 1 = depth
            rw [hkeep, Nat.add_sub_cancel]
          · have hheight := hoperand (cond.suffix (List.suffix_cons t rest) htokens) (cond.operand htree)
            have hleft : maxDepth - depth = maxDepth - (depth + 1) + 1 := by omega
            exact hheight.trans (hleft ▸ hstep _)

end Primary

/-- Expressions, with the level that they take themselves. -/
theorem expression {levels : Nat} {inner : Nat → Nat}
    (h : Bounded cond .expression (readLevels (readUnary (readExpression levels)) Level.all) inner)
    (hinner : ∀ m, inner m ≤ bound (m + 1)) : Bounded cond .expression (readExpression (levels + 1)) bound := by
  refine ⟨readExpression_readsAs _, fun {c c' e} hread hle => ?_⟩
  obtain ⟨c₁, h₁, hread⟩ := exists_of_bind_eq_ok hread
  obtain ⟨⟨e, c₂⟩, h₂, hread⟩ := exists_of_bind_eq_ok hread
  obtain ⟨hdeeper, hle₁⟩ := Cursor.depth_of_descend h₁
  obtain ⟨hkeep, hheight⟩ := h.of_ok h₂ (hdeeper.trans_le hle₁)
  cases hread
  refine ⟨?_, fun htokens htree => ?_⟩
  · show c₂.depth - 1 = c.depth
    rw [hkeep, hdeeper, Nat.add_sub_cancel]
  · rw [Cursor.rest_of_descend h₁, hdeeper] at hheight
    have hleft : maxDepth - c.depth = maxDepth - (c.depth + 1) + 1 := by omega
    exact (hheight htokens htree).trans (hleft ▸ hinner _)

end Bounded

/-! ### The parser -/

/-- The height that levels of nesting allow: with `m + 1` of them left, six chains of `m` operators around what
`m` levels allow, and a call. -/
def highest : Nat → Nat
  | 0 => 0
  | m + 1 => highest m + 6 * m + 1

theorem highest_add (m : Nat) : highest m + 2 * m = 3 * m ^ 2 := by
  induction m with
  | zero => rfl
  | succ m ih =>
      rw [highest, Nat.pow_two] at *
      simp only [Nat.mul_add, Nat.add_mul] at *
      omega

theorem highest_succ_le (m : Nat) : highest m + 1 ≤ highest (m + 1) := by
  rw [highest]
  omega

theorem monotone_highest : Monotone highest :=
  monotone_nat_of_le_succ fun m => (Nat.le_succ _).trans (highest_succ_le m)

/-- Expressions are no higher than the levels left allow. -/
theorem readExpression_bounded (levels : Nat) :
    Bounded .none .expression (readExpression levels) highest := by
  induction levels with
  | zero => exact ⟨readExpression_readsAs 0, nofun⟩
  | succ levels ih =>
      have hmono : Monotone fun m => highest m + 1 := fun a b hab => Nat.succ_le_succ (monotone_highest hab)
      refine ((ih.unary highest_succ_le).levels hmono stacked_all).expression fun m => ?_
      show highest m + 1 + 6 * m ≤ highest m + 6 * m + 1
      omega

/-- Expressions whose chains rise are no higher than there are levels left. -/
theorem readExpression_rising (levels : Nat) :
    Bounded .rising .expression (readExpression levels) id := by
  induction levels with
  | zero => exact ⟨readExpression_readsAs 0, nofun⟩
  | succ levels ih =>
      have hunary := ih.unary fun _ => Nat.le_refl _
      exact (hunary.levels_rising stacked_all).expression fun _ => Nat.le_refl _

theorem exists_read_of_parse {ts : List Token} {e : Expr} (h : parse ts = .ok e) :
    ∃ c, readExpression (maxDepth + 1) ⟨ts, 0⟩ = .ok (e, c) := by
  unfold parse at h
  split at h
  · cases h
  · obtain ⟨⟨e', c⟩, hread, h⟩ := exists_of_bind_eq_ok h
    dsimp only at h
    split at h
    · cases h
      exact ⟨c, hread⟩
    · cases h

theorem height_le_of_parseFormula {formula : String} {e : Expr} (h : parseFormula formula = .ok e) :
    e.height ≤ 3 * maxDepth ^ 2 - 2 * maxDepth := by
  obtain ⟨ts, -, h⟩ := exists_of_bind_eq_ok h
  obtain ⟨c, hread⟩ := exists_read_of_parse h
  have hheight := ((readExpression_bounded _).of_ok hread (Nat.zero_le _)).2 trivial trivial
  exact Nat.le_sub_of_add_le ((Nat.add_le_add_right hheight _).trans_eq (highest_add _))

theorem height_le_of_rising {ts : List Token} {e : Expr} (h : parse ts = .ok e) (hgroups : ¬ Regroups ts)
    (hrising : e.Rising) : e.height ≤ maxDepth := by
  obtain ⟨c, hread⟩ := exists_read_of_parse h
  exact ((readExpression_rising _).of_ok hread (Nat.zero_le _)).2 hgroups hrising

/-- **The height of a parsed tree** is bounded; it is at most `maxDepth` if no operand of a chain is higher than
the next one and no operation in parentheses comes before an operator of its own level; and it is no more than the
operators and opening parentheses of the formula, so at most `maxDepth` if they are. -/
theorem height_of_parseFormula {formula : String} {ts : List Token} {e : Expr}
    (hscan : Token.scan formula = .ok ts) (h : parseFormula formula = .ok e) :
    e.height ≤ 3 * maxDepth ^ 2 - 2 * maxDepth ∧
    (¬ Regroups ts → e.Rising → e.height ≤ maxDepth) ∧
    (ts.countP Token.nests ≤ maxDepth → e.height ≤ maxDepth) := by
  have hparse : parse ts = .ok e := by
    rw [parseFormula, hscan] at h
    exact h
  refine ⟨height_le_of_parseFormula h, height_le_of_rising hparse, fun hcount => ?_⟩
  exact (derives_of_parse hparse).height_le.trans hcount

/-- The tokens of `a * b + -c`. -/
def risingTokens : List Token :=
  [⟨.identifier, "a", 0⟩, ⟨.operator, "*", 2⟩, ⟨.identifier, "b", 4⟩, ⟨.operator, "+", 6⟩, ⟨.operator, "-", 8⟩,
    ⟨.identifier, "c", 9⟩]

/-- The tree of `a * b + -c`. -/
def risingTree : Expr :=
  .binary .add (.binary .multiply (.identifier "a") (.identifier "b")) (.unary .negate (.identifier "c"))

/-- A sum of two operands of the same height rises, and has no parentheses. -/
theorem height_of_parseFormula_risingTree :
    (Token.scan "a * b + -c" = .ok risingTokens ∧ parseFormula "a * b + -c" = .ok risingTree) ∧
    ¬ Regroups risingTokens ∧ risingTree.Rising ∧ risingTokens.countP Token.nests ≤ maxDepth ∧
    risingTree.height ≤ maxDepth := by
  have hscan : Token.scan "a * b + -c" = .ok risingTokens := by decide +kernel
  have hparse : parseFormula "a * b + -c" = .ok risingTree := by
    rw [parseFormula, hscan]
    with_unfolding_all rfl
  have hgroups : ¬ Regroups risingTokens := by
    intro hgroup
    have hno : ∀ t ∈ risingTokens, t.is .paren "(" = false := by decide +kernel
    obtain ⟨t, ht, hopen⟩ := hgroup.exists_opening
    exact absurd hopen (Bool.eq_false_iff.1 (hno t ht))
  have hrising : risingTree.Rising :=
    .binary (.binary (.identifier "a") (.identifier "b") (Nat.le_refl 0)) (.unary (.identifier "c")) (Nat.le_refl 1)
  exact ⟨⟨hscan, hparse⟩, hgroups, hrising, by decide +kernel,
    (height_of_parseFormula hscan hparse).2.1 hgroups hrising⟩

end Costing.Formula
