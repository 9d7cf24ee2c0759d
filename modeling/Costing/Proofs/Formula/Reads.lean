import Costing.Proofs.Formula.Grammar

/-!
# Formula — reading from the front

The grammar, read from left to right with one token of lookahead.  `Reads goal ts answer rest` says that
reading `goal` off the front of `ts` gives `answer` and leaves `rest`.  A chain is read as an operand and
then `Goal.more`, what its operators add to the tree so far, up to a token that is no operator of the
level.  Nesting is not bounded here either.

* `Reads.unique`: at most one answer can be read, and it ends at one place.
* `Reads.derives`: what is read derives its phrase.
* `Derives.reads`: what derives a phrase is read whole, if no token that follows could extend it.
* `Derives.unique`: so the grammar gives at most one tree to any tokens.
-/

namespace Costing.Formula

/-! ### The rules -/

/-- What is read. -/
inductive Goal where
  | layer (layer : Layer)
  /-- The operators of a level after a tree. -/
  | more (level : Level) (left : Expr)
  | arguments

/-- The tokens that a goal takes at least. -/
def Goal.least : Goal → Nat
  | .more .. => 0
  | .layer _ | .arguments => 1

/-- What reading gives. -/
inductive Answer where
  | tree (e : Expr)
  | arguments (args : List Expr)

/-- Whether the next token is the punctuation `text`. -/
def sees (ts : List Token) (kind : TokenKind) (text : String) : Bool :=
  ts.head?.any (·.is kind text)

/-- The operator of a level that is the next token. -/
def nextBinary? (ts : List Token) (level : Level) : Option BinaryOp :=
  ts.head?.bind (·.binaryOp? level)

/-- The prefix operator that is the next token. -/
def nextUnary? (ts : List Token) : Option UnaryOp :=
  ts.head?.bind Token.unaryOp?

/-- The tree of a token that is a primary by itself. -/
def Token.leaf? (t : Token) : Option Expr :=
  match t.kind with
  | .number => (Number.read? t.text).map fun x => .literal (.number x)
  | .string => some (.literal (.string t.text))
  | .identifier => some (ofName t.text)
  | .operator | .paren | .comma => none

/-- A name that is no literal stands for itself. -/
theorem ofName_of_not_mem {name : String} (h : name ∉ literalNames.map Prod.fst) :
    ofName name = .identifier name := by
  unfold ofName
  split <;> simp_all [literalNames]

/-- A name that is a literal stands for its value. -/
theorem ofName_of_mem {name : String} {v : Value} (h : (name, v) ∈ literalNames) :
    ofName name = .literal v := by
  simp only [literalNames, List.mem_cons, Prod.mk.injEq, List.not_mem_nil, or_false] at h
  obtain ⟨rfl, rfl⟩ | ⟨rfl, rfl⟩ | ⟨rfl, rfl⟩ := h <;> rfl

/-- A token that is a primary by itself derives its tree. -/
theorem Derives.of_leaf {t : Token} {e : Expr} (h : t.leaf? = some e) : Derives [t] (.tree .primary e) := by
  unfold Token.leaf? at h
  split at h
  · next hkind =>
      obtain ⟨x, hx, rfl⟩ := Option.map_eq_some_iff.1 h
      exact .number hkind hx
  · next hkind => cases h; exact .string hkind
  · next hkind =>
      cases h
      by_cases hname : t.text ∈ literalNames.map Prod.fst
      · obtain ⟨⟨name, v⟩, hmem, rfl⟩ := List.mem_map.1 hname
        rw [ofName_of_mem hmem]
        exact .literal (Token.is_iff.2 ⟨hkind, rfl⟩) hmem
      · rw [ofName_of_not_mem hname]
        exact .identifier hkind hname
  all_goals cases h

theorem Token.leaf?_of_paren {t : Token} {text : String} (h : t.is .paren text) : t.leaf? = none := by
  rw [leaf?, (is_iff.1 h).1]

/-- Reading a goal off the front of some tokens. -/
inductive Reads : Goal → List Token → Answer → List Token → Prop where
  | chain {level : Level} {ts mid rest : List Token} {first e : Expr} :
      Reads (.layer level.operand) ts (.tree first) mid → Reads (.more level first) mid (.tree e) rest →
      Reads (.layer (.chain level)) ts (.tree e) rest
  | stop {level : Level} {rest : List Token} {e : Expr} :
      nextBinary? rest level = none → Reads (.more level e) rest (.tree e) rest
  | operator {level : Level} {t : Token} {op : BinaryOp} {ts mid rest : List Token} {l r e : Expr} :
      t.binaryOp? level = some op → Reads (.layer level.operand) ts (.tree r) mid →
      Reads (.more level (.binary op l r)) mid (.tree e) rest →
      Reads (.more level l) (t :: ts) (.tree e) rest
  | primary {ts rest : List Token} {e : Expr} :
      nextUnary? ts = none → Reads (.layer .primary) ts (.tree e) rest →
      Reads (.layer .unary) ts (.tree e) rest
  | unary {t : Token} {op : UnaryOp} {ts rest : List Token} {e : Expr} :
      t.unaryOp? = some op → Reads (.layer .unary) ts (.tree e) rest →
      Reads (.layer .unary) (t :: ts) (.tree (.unary op e)) rest
  | leaf {t : Token} {rest : List Token} {e : Expr} :
      t.leaf? = some e → (t.kind = .identifier → sees rest .paren "(" = false) →
      Reads (.layer .primary) (t :: rest) (.tree e) rest
  | call {name opening closing : Token} {rest : List Token} :
      name.kind = .identifier → opening.is .paren "(" → closing.is .paren ")" →
      Reads (.layer .primary) (name :: opening :: closing :: rest) (.tree (.call name.text [])) rest
  | callWith {name opening closing : Token} {ts rest : List Token} {args : List Expr} :
      name.kind = .identifier → opening.is .paren "(" → sees ts .paren ")" = false →
      Reads .arguments ts (.arguments args) (closing :: rest) → closing.is .paren ")" →
      Reads (.layer .primary) (name :: opening :: ts) (.tree (.call name.text args)) rest
  | parentheses {opening closing : Token} {ts rest : List Token} {e : Expr} :
      opening.is .paren "(" → Reads (.layer .expression) ts (.tree e) (closing :: rest) →
      closing.is .paren ")" → Reads (.layer .primary) (opening :: ts) (.tree e) rest
  | lastArgument {ts rest : List Token} {e : Expr} :
      Reads (.layer .expression) ts (.tree e) rest → sees rest .comma "," = false →
      Reads .arguments ts (.arguments [e]) rest
  | argument {ts mid rest : List Token} {comma : Token} {e : Expr} {args : List Expr} :
      Reads (.layer .expression) ts (.tree e) (comma :: mid) → comma.is .comma "," →
      Reads .arguments mid (.arguments args) rest →
      Reads .arguments ts (.arguments (e :: args)) rest

namespace Reads

/-- **At most one answer** can be read, and it ends at one place. -/
theorem unique {goal : Goal} {ts rest rest' : List Token} {answer answer' : Answer}
    (h : Reads goal ts answer rest) (h' : Reads goal ts answer' rest') :
    answer = answer' ∧ rest = rest' := by
  induction h generalizing answer' rest' with
  | chain _ _ ihfirst ihmore =>
      cases h' with
      | chain h₁ h₂ =>
          obtain ⟨he, rfl⟩ := ihfirst h₁
          cases he
          exact ihmore h₂
  | stop hstop =>
      cases h' with
      | stop => exact ⟨rfl, rfl⟩
      | operator hop => exact absurd (hstop.symm.trans hop) nofun
  | operator hop _ _ ihright ihmore =>
      cases h' with
      | stop hstop => exact absurd (hstop.symm.trans hop) nofun
      | operator hop' h₁ h₂ =>
          cases hop.symm.trans hop'
          obtain ⟨he, rfl⟩ := ihright h₁
          cases he
          exact ihmore h₂
  | primary hno _ ih =>
      cases h' with
      | primary _ h₁ => exact ih h₁
      | unary hop => exact absurd (hno.symm.trans hop) nofun
  | unary hop _ ih =>
      cases h' with
      | primary hno => exact absurd (hno.symm.trans hop) nofun
      | unary hop' h₁ =>
          cases hop.symm.trans hop'
          obtain ⟨he, rfl⟩ := ih h₁
          cases he
          exact ⟨rfl, rfl⟩
  | leaf hleaf hname =>
      cases h' with
      | leaf hleaf' => cases hleaf.symm.trans hleaf'; exact ⟨rfl, rfl⟩
      | call hkind hopen | callWith hkind hopen => exact absurd ((hname hkind).symm.trans hopen) nofun
      | parentheses hopen => exact absurd (hleaf.symm.trans (Token.leaf?_of_paren hopen)) nofun
  | call hkind hopen hclose =>
      cases h' with
      | leaf _ hname => exact absurd ((hname hkind).symm.trans hopen) nofun
      | call => exact ⟨rfl, rfl⟩
      | callWith _ _ hsees => exact absurd (hsees.symm.trans hclose) nofun
      | parentheses hparen => exact absurd (hkind.symm.trans (Token.is_iff.1 hparen).1) nofun
  | callWith hkind hopen hsees _ _ ih =>
      cases h' with
      | leaf _ hname => exact absurd ((hname hkind).symm.trans hopen) nofun
      | call _ _ hclose => exact absurd (hsees.symm.trans hclose) nofun
      | callWith _ _ _ h₁ =>
          obtain ⟨hargs, hrest⟩ := ih h₁
          cases hargs; cases hrest
          exact ⟨rfl, rfl⟩
      | parentheses hparen => exact absurd (hkind.symm.trans (Token.is_iff.1 hparen).1) nofun
  | parentheses hopen _ _ ih =>
      cases h' with
      | leaf hleaf => exact absurd (hleaf.symm.trans (Token.leaf?_of_paren hopen)) nofun
      | call hkind | callWith hkind => exact absurd (hkind.symm.trans (Token.is_iff.1 hopen).1) nofun
      | parentheses _ h₁ =>
          obtain ⟨he, hrest⟩ := ih h₁
          cases he; cases hrest
          exact ⟨rfl, rfl⟩
  | lastArgument _ hsees ih =>
      cases h' with
      | lastArgument h₁ =>
          obtain ⟨he, rfl⟩ := ih h₁
          cases he
          exact ⟨rfl, rfl⟩
      | argument h₁ hcomma =>
          obtain ⟨-, rfl⟩ := ih h₁
          exact absurd (hsees.symm.trans hcomma) nofun
  | argument _ hcomma _ ihfirst ihrest =>
      cases h' with
      | lastArgument h₁ hsees =>
          obtain ⟨-, rfl⟩ := ihfirst h₁
          exact absurd (hsees.symm.trans hcomma) nofun
      | argument h₁ _ h₂ =>
          obtain ⟨he, hrest⟩ := ihfirst h₁
          cases he; cases hrest
          obtain ⟨he, rfl⟩ := ihrest h₂
          cases he
          exact ⟨rfl, rfl⟩

/-- What is read takes as many tokens as its goal needs. -/
theorem length_le {goal : Goal} {ts rest : List Token} {answer : Answer}
    (h : Reads goal ts answer rest) : rest.length + goal.least ≤ ts.length := by
  induction h with
  | stop => exact Nat.le_refl _
  | leaf => exact Nat.le_refl _
  | call => simp only [Goal.least, List.length_cons]; omega
  | chain _ _ ihfirst ihrest | operator _ _ _ ihfirst ihrest | argument _ _ _ ihfirst ihrest =>
      simp only [Goal.least, List.length_cons] at *; omega
  | primary _ _ ih | unary _ _ ih | callWith _ _ _ _ _ ih | parentheses _ _ _ ih | lastArgument _ _ ih =>
      simp only [Goal.least, List.length_cons] at *; omega

/-- What is read as a goal stands for a phrase. -/
def Stands : Goal → List Token → Answer → Prop
  | .layer layer, ts, .tree e => Derives ts (.tree layer e)
  | .more level left, ts, .tree e =>
    ∀ before, Derives before (.tree (.chain level) left) → Derives (before ++ ts) (.tree (.chain level) e)
  | .arguments, ts, .arguments args => Derives ts (.arguments args)
  | _, _, _ => False

/-- **What is read derives its phrase.** -/
theorem exists_stands {goal : Goal} {ts rest : List Token} {answer : Answer}
    (h : Reads goal ts answer rest) : ∃ used, ts = used ++ rest ∧ Stands goal used answer := by
  induction h with
  | chain _ _ ihfirst ihmore =>
      obtain ⟨first, rfl, hfirst⟩ := ihfirst
      obtain ⟨more, rfl, hmore⟩ := ihmore
      exact ⟨first ++ more, (List.append_assoc ..).symm, hmore first (.operand hfirst)⟩
  | stop => exact ⟨[], rfl, fun before hbefore => by rwa [List.append_nil]⟩
  | @operator _ t _ _ _ _ _ _ _ hop _ _ ihright ihmore =>
      obtain ⟨symbol, his, hmem⟩ := Token.binaryOp?_eq_some.1 hop
      obtain ⟨right, rfl, hright⟩ := ihright
      obtain ⟨more, rfl, hmore⟩ := ihmore
      refine ⟨t :: (right ++ more), by simp, fun before hbefore => ?_⟩
      have := hmore _ (.binary hbefore his hmem hright)
      simpa using this
  | primary _ _ ih =>
      obtain ⟨used, rfl, h⟩ := ih
      exact ⟨used, rfl, .primary h⟩
  | @unary t _ _ _ _ hop _ ih =>
      obtain ⟨symbol, his, hmem⟩ := Token.unaryOp?_eq_some.1 hop
      obtain ⟨used, rfl, h⟩ := ih
      exact ⟨t :: used, rfl, .unary his hmem h⟩
  | @leaf t _ _ hleaf _ => exact ⟨[t], rfl, .of_leaf hleaf⟩
  | @call name opening closing _ hkind hopen hclose =>
      exact ⟨[name, opening, closing], rfl, .call hkind hopen hclose⟩
  | @callWith name opening closing _ _ _ hkind hopen _ _ hclose ih =>
      obtain ⟨used, rfl, h⟩ := ih
      exact ⟨name :: opening :: (used ++ [closing]), by simp, .callWith hkind hopen h hclose⟩
  | @parentheses opening closing _ _ _ hopen _ hclose ih =>
      obtain ⟨used, rfl, h⟩ := ih
      exact ⟨opening :: (used ++ [closing]), by simp, .parentheses hopen h hclose⟩
  | lastArgument _ _ ih =>
      obtain ⟨used, rfl, h⟩ := ih
      exact ⟨used, rfl, .lastArgument h⟩
  | @argument _ _ _ comma _ _ _ hcomma _ ihfirst ihrest =>
      obtain ⟨first, rfl, hfirst⟩ := ihfirst
      obtain ⟨used, rfl, h⟩ := ihrest
      exact ⟨first ++ comma :: used, by simp, .argument hfirst hcomma h⟩

/-- What is read as a layer derives a tree of it. -/
theorem derives {layer : Layer} {ts rest : List Token} {e : Expr}
    (h : Reads (.layer layer) ts (.tree e) rest) :
    ∃ used, ts = used ++ rest ∧ Derives used (.tree layer e) :=
  h.exists_stands

end Reads

/-! ### What may follow -/

/-- Tokens that cannot extend a tree of a layer: they open no arguments, and begin with no operator of the
layer or of a tighter one. -/
structure Closes (layer : Layer) (rest : List Token) : Prop where
  no_arguments : sees rest .paren "(" = false
  no_operator (level : Level) : layer.rank ≤ (Layer.chain level).rank → nextBinary? rest level = none

namespace Closes

variable {layer : Layer} {level : Level} {rest : List Token}

theorem mono {tighter : Layer} (h : Closes layer rest) (hle : layer.rank ≤ tighter.rank) :
    Closes tighter rest :=
  ⟨h.no_arguments, fun level hlevel => h.no_operator level (Nat.le_trans hle hlevel)⟩

theorem operand (h : Closes (.chain level) rest) : Closes level.operand rest :=
  h.mono (level.rank_operand ▸ Nat.le_succ _)

/-- An operator of a level closes the operand before it. -/
theorem of_operator {t : Token} {op : BinaryOp} (h : t.binaryOp? level = some op) :
    Closes level.operand (t :: rest) := by
  obtain ⟨symbol, his, hop⟩ := Token.binaryOp?_eq_some.1 h
  refine ⟨?_, fun other hrank => ?_⟩
  · simp [sees, Token.is, (Token.is_iff.1 his).1]
  · refine Option.eq_none_iff_forall_ne_some.2 fun op' hop' => ?_
    obtain ⟨symbol', his', hmem'⟩ := Token.binaryOp?_eq_some.1 hop'
    obtain rfl : symbol = symbol' := (Token.is_iff.1 his).2.symm.trans (Token.is_iff.1 his').2
    obtain ⟨hsymbol, rfl⟩ := Level.mem_operators.1 hop
    obtain ⟨hsymbol', rfl⟩ := Level.mem_operators.1 hmem'
    have hsame : op = op' := by
      have := BinaryOp.ofSymbol?_eq_some.2 hsymbol
      rw [BinaryOp.ofSymbol?_eq_some.2 hsymbol'] at this
      exact (Option.some.inj this).symm
    subst hsame
    rw [Level.rank_operand] at hrank
    exact absurd hrank (Nat.not_succ_le_self _)

/-- A closing parenthesis closes any tree. -/
theorem of_closing {t : Token} (h : t.is .paren ")") : Closes layer (t :: rest) := by
  obtain ⟨hkind, htext⟩ := Token.is_iff.1 h
  exact ⟨by simp [sees, Token.is, hkind, htext], fun _ _ => by simp [nextBinary?, Token.binaryOp?, hkind]⟩

/-- A comma closes any tree. -/
theorem of_comma {t : Token} (h : t.is .comma ",") : Closes layer (t :: rest) := by
  obtain ⟨hkind, htext⟩ := Token.is_iff.1 h
  exact ⟨by simp [sees, Token.is, hkind], fun _ _ => by simp [nextBinary?, Token.binaryOp?, hkind]⟩

/-- The end closes any tree. -/
theorem nil : Closes layer [] :=
  ⟨rfl, fun _ _ => rfl⟩

end Closes

/-! ### What derives a phrase is read -/

namespace Derives

/-- No phrase begins with a closing parenthesis. -/
theorem exists_head {ts : List Token} {p : Phrase} (h : Derives ts p) :
    ∃ t rest, ts = t :: rest ∧ t.is .paren ")" = false := by
  induction h with
  | operand _ ih | primary _ ih | lastArgument _ ih => exact ih
  | binary _ _ _ _ ih _ | argument _ _ _ ih _ =>
      obtain ⟨t, rest, rfl, hhead⟩ := ih
      exact ⟨t, _, List.cons_append .., hhead⟩
  | unary h | literal h => exact ⟨_, _, rfl, by simp [Token.is, (Token.is_iff.1 h).1]⟩
  | number h | string h | identifier h | call h | callWith h =>
      exact ⟨_, _, rfl, by simp [Token.is, h]⟩
  | parentheses h => exact ⟨_, _, rfl, by simp [Token.is, (Token.is_iff.1 h).2]⟩

/-- No primary begins with a prefix operator. -/
theorem nextUnary?_eq_none {ts : List Token} {e : Expr} (h : Derives ts (.tree .primary e))
    (rest : List Token) : nextUnary? (ts ++ rest) = none := by
  cases h with
  | literal h | parentheses h => simp [nextUnary?, Token.unaryOp?, (Token.is_iff.1 h).1]
  | number h | string h | identifier h | call h | callWith h => simp [nextUnary?, Token.unaryOp?, h]

/-- How tokens are read that stand for a phrase, before tokens that cannot extend it.  Reading a chain
comes to the point where its own operators are used up. -/
def Read (ts : List Token) : Phrase → Prop
  | .tree (.chain level) e =>
    ∀ rest, Closes level.operand rest → ∃ first mid,
      Reads (.layer level.operand) (ts ++ rest) (.tree first) mid ∧
      ∀ e' rest', Reads (.more level e) rest (.tree e') rest' →
        Reads (.more level first) mid (.tree e') rest'
  | .tree layer e => ∀ rest, Closes layer rest → Reads (.layer layer) (ts ++ rest) (.tree e) rest
  | .arguments args =>
    ∀ rest, Closes .expression rest → sees rest .comma "," = false →
      Reads .arguments (ts ++ rest) (.arguments args) rest

theorem Read.layer {ts rest : List Token} {layer : Layer} {e : Expr} (h : Read ts (.tree layer e))
    (hrest : Closes layer rest) : Reads (.layer layer) (ts ++ rest) (.tree e) rest := by
  cases layer with
  | chain level =>
      obtain ⟨first, mid, hfirst, hmore⟩ := h rest hrest.operand
      exact .chain hfirst (hmore e rest (.stop (hrest.no_operator level (Nat.le_refl _))))
  | unary | primary => exact h rest hrest

/-- **What derives a phrase is read as it.** -/
theorem read {ts : List Token} {p : Phrase} (h : Derives ts p) : Read ts p := by
  induction h with
  | operand _ ih => exact fun rest hrest => ⟨_, rest, ih.layer hrest, fun _ _ hmore => hmore⟩
  | @binary level left right t symbol op l r _ his hmem _ ihleft ihright =>
      intro rest hrest
      have hop := Token.binaryOp?_eq_some.2 ⟨_, his, hmem⟩
      obtain ⟨first, mid, hfirst, hmore⟩ := ihleft (t :: (right ++ rest)) (.of_operator hop)
      refine ⟨first, mid, by simpa using hfirst, fun e' rest' hrest' => ?_⟩
      exact hmore e' rest' (.operator hop (ihright.layer hrest) hrest')
  | primary h ih =>
      intro rest hrest
      exact .primary (h.nextUnary?_eq_none rest) (ih.layer (hrest.mono (Nat.le_succ _)))
  | unary his hmem _ ih =>
      intro rest hrest
      exact .unary (Token.unaryOp?_eq_some.2 ⟨_, his, hmem⟩) (ih.layer hrest)
  | number hkind hread =>
      intro rest _
      exact .leaf (by simp [Token.leaf?, hkind, hread]) (by simp [hkind])
  | string hkind =>
      intro rest _
      exact .leaf (by simp [Token.leaf?, hkind]) (by simp [hkind])
  | literal his hmem =>
      intro rest hrest
      obtain ⟨hkind, rfl⟩ := Token.is_iff.1 his
      exact .leaf (by simp [Token.leaf?, hkind, ofName_of_mem hmem]) fun _ => hrest.no_arguments
  | identifier hkind hname =>
      intro rest hrest
      exact .leaf (by simp [Token.leaf?, hkind, ofName_of_not_mem hname]) fun _ => hrest.no_arguments
  | call hname hopen hclose => exact fun rest _ => .call hname hopen hclose
  | @callWith _ _ closing ts args hname hopen hargs hclose ih =>
      intro rest _
      obtain ⟨t, ts, rfl, hhead⟩ := hargs.exists_head
      have hcomma : sees (closing :: rest) .comma "," = false := by
        simp [sees, Token.is, (Token.is_iff.1 hclose).1]
      have := ih (closing :: rest) (.of_closing hclose) hcomma
      simpa using .callWith hname hopen (by exact hhead) this hclose
  | parentheses hopen _ hclose ih =>
      intro rest _
      simpa using .parentheses hopen (ih.layer (.of_closing hclose)) hclose
  | lastArgument _ ih => exact fun rest hrest hcomma => .lastArgument (ih.layer hrest) hcomma
  | argument _ hcomma _ ihfirst ihrest =>
      intro rest hrest hnone
      simpa using .argument (ihfirst.layer (.of_comma hcomma)) hcomma (ihrest rest hrest hnone)

/-- What derives a tree of a layer is read as it, before tokens that cannot extend it. -/
theorem reads {ts rest : List Token} {layer : Layer} {e : Expr} (h : Derives ts (.tree layer e))
    (hrest : Closes layer rest) : Reads (.layer layer) (ts ++ rest) (.tree e) rest :=
  h.read.layer hrest

/-- **The grammar is unambiguous**: tokens derive at most one tree of a layer. -/
theorem unique {ts : List Token} {layer : Layer} {e e' : Expr} (h : Derives ts (.tree layer e))
    (h' : Derives ts (.tree layer e')) : e = e' := by
  obtain ⟨heq, -⟩ := (h.reads .nil).unique (h'.reads .nil)
  exact Answer.tree.inj heq

end Derives

end Costing.Formula
