import Mathlib.Order.Bounds.Defs
import Costing.Proofs.Formula.Height
import Costing.Proofs.Formula.Scan

/-!
# Formula — as high as trees get

Formulas whose trees are as high as those of formulas can be.  A chain of the tightest operators stands around
a call, a chain of each looser level around that, and the call has such a formula as its argument.

* `Takes`: before whatever closes a layer, a reader takes some tokens as a tree and comes back to its depth.
* `Takes.level`: with an operand in front, a reader of a level takes a chain of as many operators as there are
  levels left, whatever the operand has taken of them in between.
* `readFrom_tower`, `readFrom_tall`: the text of chains around an operand is read as these chains, and the text of
  such calls in each other, as many as there are levels, as these calls.
* `isGreatest_height`: the height of these is the greatest that a parsed tree has.
* `exists_higher_than_maxDepth`: two chains in a row are enough for a tree that is higher than `maxDepth`.
-/

namespace Costing.Formula

/-! ### Trees and their texts -/

/-- An operator of each level. -/
def Level.operator : Level → BinaryOp
  | .or => .or
  | .and => .and
  | .equality => .equal
  | .comparison => .less
  | .sum => .add
  | .product => .multiply

theorem Level.operator_mem (l : Level) : (l.operator.symbol, l.operator) ∈ l.operators := by
  cases l <;> decide

namespace Expr

/-- A tree with `n` operators after it, each before the name `x`. -/
def chain (op : BinaryOp) (e : Expr) : Nat → Expr
  | 0 => e
  | n + 1 => chain op (.binary op e (.identifier "x")) n

/-- A chain of each level around a tree, of as many operators as are counted for the level. -/
def tower (count : Level → Nat) (ls : List Level) (e : Expr) : Expr :=
  ls.foldr (fun l inner => chain l.operator inner (count l)) e

/-- A call in towers, in a call in towers, and so on. -/
def tall : Nat → Expr
  | 0 => call "f" []
  | m + 1 => tower (fun _ => m + 1) Level.all (call "f" [tall m])

theorem height_chain (op : BinaryOp) (e : Expr) (n : Nat) : (chain op e n).height = e.height + n := by
  induction n generalizing e with
  | zero => rfl
  | succ n ih =>
      rw [chain, ih, height]
      show max e.height 0 + 1 + n = _
      omega

theorem height_tower (count : Level → Nat) (ls : List Level) (e : Expr) :
    (tower count ls e).height = e.height + (ls.map count).sum := by
  induction ls with
  | nil => rfl
  | cons l ls ih =>
      show (chain l.operator (tower count ls e) (count l)).height = _
      rw [height_chain, ih, List.map_cons, List.sum_cons]
      omega

theorem height_tall (m : Nat) : (tall m).height = highest (m + 1) := by
  induction m with
  | zero => rfl
  | succ m ih =>
      have hcall : (call "f" [tall m]).height = (tall m).height + 1 :=
        congrArg (· + 1) (Nat.max_zero _)
      rw [tall, height_tower, hcall, List.map_const', List.sum_replicate_nat, highest, ← ih]
      exact Nat.add_right_comm _ _ _

end Expr

/-- The text of operators, each before the name `x`. -/
def chainText (op : BinaryOp) : Nat → List Char
  | 0 => []
  | n + 1 => ' ' :: (op.symbol.toList ++ ' ' :: 'x' :: chainText op n)

/-- The text of a chain of each level after a text. -/
def towerText (count : Level → Nat) (ls : List Level) (cs : List Char) : List Char :=
  ls.foldr (fun l inner => inner ++ chainText l.operator (count l)) cs

/-- The text of a call of `f`, given the text of what it has in parentheses. -/
def callText (cs : List Char) : List Char :=
  "f".toList ++ '(' :: (cs ++ [')'])

/-- The text of a call in towers, in a call in towers, and so on. -/
def tallText : Nat → List Char
  | 0 => callText []
  | m + 1 => towerText (fun _ => m + 1) Level.all (callText (tallText m))

/-! ### Readers -/

/-- Tokens of operators, each before the name `x`. -/
inductive Chained (op : BinaryOp) : Nat → List Token → Prop where
  | nil : Chained op 0 []
  | cons {n : Nat} {t x : Token} {ts : List Token} :
      t.is .operator op.symbol → x.is .identifier "x" → Chained op n ts → Chained op (n + 1) (t :: x :: ts)

/-- Before whatever closes a layer, a reader takes the tokens as the tree and comes back to the depth. -/
def Takes (reader : Reader Expr) (layer : Layer) (depth : Nat) (e : Expr) (ts : List Token) : Prop :=
  ∀ rest, Closes layer rest → reader ⟨ts ++ rest, depth⟩ = .ok (e, ⟨rest, depth⟩)

theorem Cursor.descend_of_lt {c : Cursor} (h : c.depth < maxDepth) :
    c.descend = .ok { c with depth := c.depth + 1 } :=
  if_neg (Nat.not_lt.2 h)

/-- What a chain leaves to be read after an operand closes the operand. -/
theorem Chained.closes {l : Level} {n : Nat} {ts rest : List Token} (h : Chained l.operator n ts)
    (hrest : Closes (.chain l) rest) : Closes l.operand (ts ++ rest) := by
  cases h with
  | nil => exact hrest.operand
  | cons hop _ _ => exact .of_operator (Token.binaryOp?_eq_some.2 ⟨_, hop, l.operator_mem⟩)

namespace Takes

variable {operand : Reader Expr} {depth : Nat} {e : Expr} {ts : List Token}

/-! ### Chains -/

section Chain

variable {l : Level} (hx : ∀ d x, x.is .identifier "x" → Takes operand l.operand d (.identifier "x") [x])

include hx

theorem readChain {n fuel k d : Nat} {left : Expr} {rest : List Token} (h : Chained l.operator n ts)
    (hrest : Closes (.chain l) rest) (hfuel : n ≤ fuel) (hdepth : n ≤ maxDepth - d) :
    Formula.readChain l operand fuel left k ⟨ts ++ rest, d⟩ =
      .ok (.chain l.operator left n, k + n, ⟨rest, d + n⟩) := by
  induction h generalizing fuel k d left with
  | nil => exact ReadsAs.readChain_of_none (hrest.no_operator l (Nat.le_refl _))
  | @cons n t x ts hop hname hmore ih =>
      obtain ⟨fuel, rfl⟩ := Nat.exists_eq_add_one_of_ne_zero (Nat.ne_zero_of_lt hfuel)
      have hnext : t.binaryOp? l = some l.operator := Token.binaryOp?_eq_some.2 ⟨_, hop, l.operator_mem⟩
      have hdeeper := Cursor.descend_of_lt (c := ⟨x :: (ts ++ rest), d⟩) (by show d < maxDepth; omega)
      have hright := hx (d + 1) x hname (ts ++ rest) (hmore.closes hrest)
      rw [ReadsAs.readChain_succ rfl hnext]
      show (Cursor.descend ⟨x :: (ts ++ rest), d⟩ >>= _) = _
      rw [hdeeper]
      show (operand ⟨[x] ++ (ts ++ rest), d + 1⟩ >>= _) = _
      rw [hright]
      show Formula.readChain l operand fuel _ (k + 1) ⟨ts ++ rest, d + 1⟩ = _
      rw [ih (by omega) (by omega), Nat.add_right_comm k 1 n, Nat.add_right_comm d 1 n]
      rfl

/-- An operand and a chain of no more operators than there are levels left. -/
theorem level {n : Nat} {us : List Token} (h : Takes operand l.operand depth e ts)
    (hchain : Chained l.operator n us) (hdepth : n ≤ maxDepth - depth) :
    Takes (readLevel l operand) (.chain l) depth (.chain l.operator e n) (ts ++ us) := by
  intro rest hrest
  have hfirst := h (us ++ rest) (hchain.closes hrest)
  have hfuel : n ≤ maxDepth + 1 := by omega
  rw [List.append_assoc]
  show (operand ⟨ts ++ (us ++ rest), depth⟩ >>= _) = _
  rw [hfirst]
  show (Formula.readChain l operand (maxDepth + 1) e 0 ⟨us ++ rest, depth⟩ >>= _) = _
  rw [readChain hx hchain hrest hfuel hdepth]
  show Except.ok (_, Cursor.mk rest (depth + n - (0 + n))) = _
  rw [Nat.zero_add, Nat.add_sub_cancel]

end Chain

/-! ### Operands -/

theorem name (expression : Reader Expr) (depth : Nat) {t : Token} {name : String} (h : t.is .identifier name)
    (hname : name ∉ literalNames.map Prod.fst) :
    Takes (readUnary expression) .unary depth (.identifier name) [t] := by
  intro rest hrest
  obtain ⟨hkind, rfl⟩ := Token.is_iff.1 h
  have hno : t.unaryOp? = none := by simp [Token.unaryOp?, hkind]
  have hsees : Cursor.sees ⟨rest, depth⟩ .paren "(" = false := hrest.no_arguments
  show readUnaryFrom expression depth (t :: rest) = _
  simp only [readUnaryFrom, hno, readPrimary, hkind, hsees]
  rw [ofName_of_not_mem hname]
  rfl

/-- A name and an opening parenthesis begin a call. -/
theorem readUnary_call {expression : Reader Expr} {t opening : Token} {rest : List Token}
    (hkind : t.kind = .identifier) (hopen : opening.is .paren "(") :
    readUnary expression ⟨t :: opening :: rest, depth⟩ =
      (ReadsAs.readGiven expression ⟨rest, depth⟩ >>= ReadsAs.closeCall t.text) := by
  have hno : t.unaryOp? = none := by simp [Token.unaryOp?, hkind]
  show readUnaryFrom expression depth (t :: opening :: rest) = _
  simp only [readUnaryFrom, hno, readPrimary, hkind, Cursor.sees_eq, sees_cons, hopen, if_true]
  rw [ReadsAs.readCall_eq, Cursor.expect_cons rfl hopen]
  rfl

theorem call (expression : Reader Expr) (depth : Nat) {t opening closing : Token} (hkind : t.kind = .identifier)
    (hopen : opening.is .paren "(") (hclose : closing.is .paren ")") :
    Takes (readUnary expression) .unary depth (.call t.text []) [t, opening, closing] := by
  intro rest _
  show readUnary expression ⟨t :: opening :: (closing :: rest), depth⟩ = _
  rw [readUnary_call hkind hopen, ReadsAs.readGiven, Cursor.sees_eq, sees_cons, if_pos hclose]
  exact ReadsAs.closeCall_cons (c := ⟨closing :: rest, depth⟩) rfl hclose

/-- A single argument is read as an expression. -/
theorem readArguments {expression : Reader Expr} (h : Takes expression .expression depth e ts)
    {closing : Token} (hclose : closing.is .paren ")") (fuel : Nat) (rest : List Token) :
    Formula.readArguments expression (fuel + 1) ⟨ts ++ closing :: rest, depth⟩ =
      .ok ([e], ⟨closing :: rest, depth⟩) := by
  have hcomma : closing.is .comma "," = false := by simp [Token.is, (Token.is_iff.1 hclose).1]
  rw [Formula.readArguments, h _ (.of_closing hclose)]
  show (if closing.is .comma "," then _ else _) = _
  rw [hcomma]
  rfl

/-- A call with an argument. -/
theorem callWith {levels : Nat} {t opening closing : Token}
    (h : Takes (readExpression levels) .expression depth e ts) (hkind : t.kind = .identifier)
    (hopen : opening.is .paren "(") (hclose : closing.is .paren ")") :
    Takes (readUnary (readExpression levels)) .unary depth (.call t.text [e])
      (t :: opening :: (ts ++ [closing])) := by
  intro rest _
  -- the argument does not begin with the parenthesis that ends a call without arguments
  obtain ⟨used, hused, hderives⟩ :=
    ((readExpression_readsAs levels).sound (h (closing :: rest) (.of_closing hclose))).derives
  obtain rfl := List.append_cancel_right hused
  obtain ⟨first, more, hts, hhead⟩ := hderives.exists_head
  have hsees : Cursor.sees ⟨ts ++ closing :: rest, depth⟩ .paren ")" = false := by rw [hts]; exact hhead
  have htext : ts ++ [closing] ++ rest = ts ++ closing :: rest := List.append_cons ts closing rest ▸ rfl
  show readUnary _ ⟨t :: opening :: (ts ++ [closing] ++ rest), depth⟩ = _
  rw [readUnary_call hkind hopen, htext, ReadsAs.readGiven, hsees]
  show (Formula.readArguments _ _ ⟨ts ++ closing :: rest, depth⟩ >>= _) = _
  rw [h.readArguments hclose]
  exact ReadsAs.closeCall_cons (c := ⟨closing :: rest, depth⟩) rfl hclose

/-! ### Layers -/

/-- What prefix operators and primaries are read as is read so by any levels before them. -/
theorem levels {expression : Reader Expr} (h : Takes (readUnary expression) .unary depth e ts)
    {ls : List Level} (hls : Stacked ls) :
    Takes (readLevels (readUnary expression) ls) (.top ls) depth e ts := by
  induction ls generalizing depth e ts with
  | nil => exact h
  | cons l ls ih =>
      obtain ⟨hnext, hls⟩ := hls
      have hx d x (hname : x.is .identifier "x") :
          Takes (readLevels (readUnary expression) ls) l.operand d (.identifier "x") [x] :=
        hnext ▸ ih (name expression d hname (by decide)) hls
      have hlevel := level hx (hnext ▸ ih h hls) .nil (Nat.zero_le _)
      rwa [List.append_nil] at hlevel

theorem expression {levels : Nat} (h : Takes (readLevels (readUnary (readExpression levels)) Level.all)
    .expression (depth + 1) e ts) (hlt : depth < maxDepth) :
    Takes (readExpression (levels + 1)) .expression depth e ts := by
  intro rest hrest
  show (Cursor.descend ⟨ts ++ rest, depth⟩ >>= _) = _
  rw [Cursor.descend_of_lt hlt]
  show (readLevels _ Level.all ⟨ts ++ rest, depth + 1⟩ >>= _) = _
  rw [h rest hrest]
  rfl

theorem parse (h : Takes (readExpression (maxDepth + 1)) .expression 0 e ts) : Formula.parse ts = .ok e := by
  have hread := h [] .nil
  have hlength := ((readExpression_readsAs _).sound hread).length_le
  rw [List.append_nil] at hread hlength
  cases ts with
  | nil => cases hlength
  | cons t ts =>
      show (readExpression (maxDepth + 1) ⟨t :: ts, 0⟩ >>= _) = _
      rw [hread]
      rfl

end Takes

/-! ### Texts -/

theorem ends_chainText (op : BinaryOp) (n : Nat) {rest : List Char} (hrest : Ends rest) :
    Ends (chainText op n ++ rest) := by
  cases n with
  | zero => exact hrest
  | succ n => exact .cons (by decide) (by decide) _

theorem isName_x : IsName "x" :=
  ⟨'x', [], rfl, by decide, nofun, by decide +kernel⟩

theorem isName_f : IsName "f" :=
  ⟨'f', [], rfl, by decide, nofun, by decide +kernel⟩

theorem lexes_chain (op : BinaryOp) (n : Nat) {rest : List Char} (hrest : Ends rest) :
    Lexes (chainText op n) rest (Chained op n) := by
  induction n with
  | zero => exact Lexes.nil.mono fun _ hts => hts ▸ .nil
  | succ n ih =>
      have hoperand : Lexes ("x".toList ++ chainText op n) rest fun ts =>
          ∃ x us, ts = x :: us ∧ x.is .identifier "x" ∧ Chained op n us := by
        refine (Lexes.word isName_x (ends_chainText op n hrest)).append ih ?_
        rintro _ us ⟨x, rfl, hx⟩ hus
        exact ⟨x, us, rfl, hx, hus⟩
      refine ((Lexes.binaryOp op).append hoperand.cons_blank ?_).cons_blank
      rintro _ _ ⟨t, rfl, ht⟩ ⟨x, us, rfl, hx, hus⟩
      exact .cons ht hx hus

/-- A text that is read from a depth as a tree of a layer, whatever follows. -/
def ReadFrom (reader : Reader Expr) (layer : Layer) (depth : Nat) (e : Expr) (cs : List Char) : Prop :=
  ∀ rest, Ends rest → Lexes cs rest (Takes reader layer depth e)

theorem readFrom_tower {expression : Reader Expr} {depth : Nat} {e : Expr} {cs : List Char}
    (h : ReadFrom (readUnary expression) .unary depth e cs) {count : Level → Nat}
    (hcount : ∀ l, count l ≤ maxDepth - depth) {ls : List Level} (hls : Stacked ls) :
    ReadFrom (readLevels (readUnary expression) ls) (.top ls) depth (.tower count ls e)
      (towerText count ls cs) := by
  induction ls with
  | nil => exact h
  | cons l ls ih =>
      intro rest hrest
      obtain ⟨hnext, hls⟩ := hls
      have hx d x (hname : x.is .identifier "x") :
          Takes (readLevels (readUnary expression) ls) l.operand d (.identifier "x") [x] :=
        hnext ▸ (Takes.name expression d hname (by decide)).levels hls
      refine (ih hls _ (ends_chainText _ _ hrest)).append (lexes_chain l.operator (count l) hrest) ?_
      intro ts us hts hus
      exact Takes.level hx (hnext ▸ hts) hus (hcount l)

/-- A name that is no literal is read as itself. -/
theorem readFrom_name {name : String} (h : IsName name) (hname : name ∉ literalNames.map Prod.fst)
    (expression : Reader Expr) (depth : Nat) :
    ReadFrom (readUnary expression) .unary depth (.identifier name) name.toList := by
  intro rest hrest
  refine (Lexes.word h hrest).mono ?_
  rintro _ ⟨t, rfl, ht⟩
  exact .name expression depth ht hname

theorem lexes_callText {cs rest : List Char} {P : List Token → Prop} (h : Lexes cs (')' :: rest) P) :
    Lexes (callText cs) rest fun ts => ∃ t o us c,
      ts = t :: o :: (us ++ [c]) ∧ t.is .identifier "f" ∧ o.is .paren "(" ∧ P us ∧ c.is .paren ")" := by
  refine (Lexes.word isName_f (.cons (by decide) (by decide) _)).append h.parenthesized ?_
  rintro _ _ ⟨t, rfl, ht⟩ ⟨o, us, c, rfl, ho, hus, hc⟩
  exact ⟨t, o, us, c, rfl, ht, ho, hus, hc⟩

theorem readFrom_call (expression : Reader Expr) (depth : Nat) :
    ReadFrom (readUnary expression) .unary depth (.call "f" []) (callText []) := by
  intro rest _
  refine (lexes_callText Lexes.nil).mono ?_
  rintro _ ⟨t, o, _, c, rfl, ht, ho, rfl, hc⟩
  obtain ⟨hkind, htext⟩ := Token.is_iff.1 ht
  exact htext ▸ .call expression depth hkind ho hc

theorem readFrom_callWith {levels depth : Nat} {e : Expr} {cs : List Char}
    (h : ReadFrom (readExpression levels) .expression depth e cs) :
    ReadFrom (readUnary (readExpression levels)) .unary depth (.call "f" [e]) (callText cs) := by
  intro rest _
  refine (lexes_callText (h _ (.cons (by decide) (by decide) _))).mono ?_
  rintro _ ⟨t, o, us, c, rfl, ht, ho, hus, hc⟩
  obtain ⟨hkind, htext⟩ := Token.is_iff.1 ht
  exact htext ▸ hus.callWith hkind ho hc

theorem readFrom_expression {levels depth : Nat} {e : Expr} {cs : List Char}
    (h : ReadFrom (readLevels (readUnary (readExpression levels)) Level.all) .expression (depth + 1) e cs)
    (hlt : depth < maxDepth) : ReadFrom (readExpression (levels + 1)) .expression depth e cs :=
  fun rest hrest => (h rest hrest).mono fun _ hts => hts.expression hlt

theorem readFrom_tall {m depth levels : Nat} (hdepth : depth + m + 1 = maxDepth) (hlevels : m < levels) :
    ReadFrom (readExpression levels) .expression depth (.tall m) (tallText m) := by
  obtain ⟨levels, rfl⟩ := Nat.exists_eq_add_one_of_ne_zero (Nat.ne_zero_of_lt hlevels)
  -- on the levels left: the call in the chains is read one level deeper
  induction m generalizing depth levels with
  | zero =>
      refine readFrom_expression (fun rest hrest => ?_) (by omega)
      exact (readFrom_call _ _ rest hrest).mono fun _ hts => hts.levels stacked_all
  | succ m ih =>
      obtain ⟨levels, rfl⟩ := Nat.exists_eq_add_one_of_ne_zero (show levels ≠ 0 by omega)
      have hinner : ReadFrom (readExpression (levels + 1)) .expression (depth + 1) (.tall m) (tallText m) :=
        ih (by omega) levels (by omega)
      refine readFrom_expression ?_ (by omega)
      exact readFrom_tower (readFrom_callWith hinner) (fun _ => by omega) stacked_all

theorem parseFormula_of_readFrom {s : String} {e : Expr}
    (h : ReadFrom (readExpression (maxDepth + 1)) .expression 0 e s.toList) : parseFormula s = .ok e := by
  obtain ⟨ts, hts, hscan⟩ := (h [] .nil).scan
  unfold parseFormula
  rw [hscan]
  exact hts.parse

/-- **The greatest height of a tree that is parsed** is not `maxDepth` but about three times its square. -/
theorem isGreatest_height :
    IsGreatest {h | ∃ formula e, parseFormula formula = .ok e ∧ e.height = h}
      (3 * maxDepth ^ 2 - 2 * maxDepth) := by
  -- the number of levels is not to be computed with
  obtain ⟨m, hm⟩ : ∃ m, maxDepth = m + 1 := ⟨255, rfl⟩
  refine ⟨⟨String.ofList (tallText m), .tall m, parseFormula_of_readFrom ?_, ?_⟩, ?_⟩
  · rw [String.toList_ofList]
    exact readFrom_tall (by omega) (by omega)
  · rw [Expr.height_tall, ← hm]
    exact Nat.eq_sub_of_add_eq (highest_add maxDepth)
  · rintro _ ⟨formula, e, hparse, rfl⟩
    exact height_le_of_parseFormula hparse

/-- The operators of `x * x * x + x + … + x`. -/
def twoChains : Level → Nat
  | .product => 2
  | .sum => 255
  | _ => 0

/-- **Some trees are higher than the parser counts**: two products and 255 sums after them. -/
theorem exists_higher_than_maxDepth :
    ∃ e, parseFormula (String.ofList (towerText twoChains Level.all "x".toList)) = .ok e ∧
      e.height = 257 ∧ maxDepth < e.height := by
  refine ⟨.tower twoChains Level.all (.identifier "x"), parseFormula_of_readFrom ?_, ?_⟩
  · rw [String.toList_ofList]
    refine readFrom_expression ?_ (by decide)
    exact readFrom_tower (readFrom_name isName_x (by decide) _ _) (fun l => by cases l <;> decide) stacked_all
  · rw [Expr.height_tower]
    decide

end Costing.Formula
