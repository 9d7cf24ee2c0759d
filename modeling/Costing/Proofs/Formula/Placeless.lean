import Costing.Proofs.Formula.Local

/-!
# Formula — places do not matter

The scanner counts places and writes them into tokens and messages, and the parser into messages; neither asks
for them.  So the same characters are the same kinds and texts of tokens wherever they stand, or none anywhere, and
tokens that differ in their places only are read to the same tree, or are no expression in both places.

* `scanFrom_placeless`: scanning from two places.
* `Cursor.Alike`: cursors over such tokens, as deep as each other.
* `Placeless`: a reader gives the same for such cursors and leaves such cursors, or fails for both.  Each reader
  of the parser does, given that the readers it calls do.
* `parse_placeless`: the parser as a whole.
-/

namespace Costing.Formula

/-- The token without its place. -/
def Token.lexeme (t : Token) : Lexeme :=
  ⟨t.kind, t.text⟩

namespace Token

variable {t u : Token} (h : t.lexeme = u.lexeme)

include h

theorem kind_eq : t.kind = u.kind :=
  congrArg Lexeme.kind h

theorem text_eq : t.text = u.text :=
  congrArg Lexeme.text h

theorem is_eq (kind : TokenKind) (text : String) : t.is kind text = u.is kind text := by
  rw [is, is, kind_eq h, text_eq h]

theorem binaryOp?_eq (level : Level) : t.binaryOp? level = u.binaryOp? level := by
  rw [binaryOp?, binaryOp?, kind_eq h, text_eq h]

theorem unaryOp?_eq : t.unaryOp? = u.unaryOp? := by
  rw [unaryOp?, unaryOp?, kind_eq h, text_eq h]

end Token

/-- Tokens that differ in their places only. -/
def SameLexemes (ts us : List Token) : Prop :=
  ts.map Token.lexeme = us.map Token.lexeme

namespace SameLexemes

theorem nil_left {us : List Token} (h : SameLexemes [] us) : us = [] :=
  List.map_eq_nil_iff.1 h.symm

theorem cons_left {t : Token} {ts us : List Token} (h : SameLexemes (t :: ts) us) :
    ∃ u us', us = u :: us' ∧ t.lexeme = u.lexeme ∧ SameLexemes ts us' := by
  cases us with
  | nil => cases h
  | cons u us => exact ⟨u, us, rfl, List.cons.inj h⟩

theorem length_eq {ts us : List Token} (h : SameLexemes ts us) : ts.length = us.length := by
  simpa using congrArg List.length h

theorem isEmpty_eq {ts us : List Token} (h : SameLexemes ts us) : ts.isEmpty = us.isEmpty := by
  rw [← List.isEmpty_map (f := Token.lexeme) (l := ts), h, List.isEmpty_map]

theorem nextBinary?_eq {ts us : List Token} (h : SameLexemes ts us) (level : Level) :
    nextBinary? ts level = nextBinary? us level := by
  cases ts with
  | nil => rw [h.nil_left]
  | cons t ts =>
      obtain ⟨u, us, rfl, htu, -⟩ := h.cons_left
      exact Token.binaryOp?_eq htu level

theorem tail {ts us : List Token} (h : SameLexemes ts us) : SameLexemes ts.tail us.tail := by
  rw [SameLexemes, List.map_tail, List.map_tail, h]

theorem append {ts ts' us us' : List Token} (h : SameLexemes ts us) (h' : SameLexemes ts' us') :
    SameLexemes (ts ++ ts') (us ++ us') := by
  rw [SameLexemes, List.map_append, List.map_append, h, h']

end SameLexemes

/-! ### The scanner -/

/-- **Scanning from two places** gives tokens that differ in their places only, or none. -/
theorem scanFrom_placeless (position other : Nat) (cs : List Char) :
    Agree SameLexemes (Token.scanFrom position cs) (Token.scanFrom other cs) := by
  induction hn : cs.length using Nat.strongRecOn generalizing position other cs with
  | ind n ih =>
  cases cs with
  | nil => rw [scanFrom_nil, scanFrom_nil]; exact rfl
  | cons c cs =>
      cases hblank : Text.isBlank c with
      | true =>
          rw [scanFrom_cons_of_isBlank hblank, scanFrom_cons_of_isBlank hblank]
          exact ih _ (hn ▸ Nat.lt_succ_self _) _ _ _ rfl
      | false =>
          cases hnext : nextLexeme position c cs with
          | error fault =>
              cases hnext' : nextLexeme other c cs with
              | error fault' =>
                  rw [scanFrom_cons_of_error hblank hnext, scanFrom_cons_of_error hblank hnext']
                  trivial
              | ok taken =>
                  obtain ⟨ds, rfl⟩ := nextLexeme_suffix hnext'
                  cases hnext.symm.trans (nextLexeme_of_replaces (.refl taken.2) hnext' position)
          | ok taken =>
              obtain ⟨l, rest⟩ := taken
              have hlt : rest.length < n := hn ▸ Nat.lt_succ_of_le (nextLexeme_suffix hnext).length_le
              obtain ⟨ds, rfl⟩ := nextLexeme_suffix hnext
              have hnext' := nextLexeme_of_replaces (.refl rest) hnext other
              rw [scanFrom_cons_of_ok hblank hnext, scanFrom_cons_of_ok hblank hnext']
              exact (ih _ hlt _ _ _ rfl).map fun ts us h => congrArg (l :: ·) h

/-! ### Cursors -/

namespace Cursor

/-- Cursors over tokens that differ in their places only, as deep as each other. -/
structure Alike (c d : Cursor) : Prop where
  rest : SameLexemes c.rest d.rest
  depth : c.depth = d.depth

namespace Alike

variable {c d : Cursor}

theorem descend (h : c.Alike d) : Agree Alike c.descend d.descend := by
  unfold Cursor.descend
  rw [h.depth]
  split
  · trivial
  · exact ⟨h.rest, rfl⟩

theorem ascend (h : c.Alike d) (levels : Nat) : (c.ascend levels).Alike (d.ascend levels) :=
  ⟨h.rest, congrArg (· - levels) h.depth⟩

theorem sees (h : c.Alike d) (kind : TokenKind) (text : String) : c.sees kind text = d.sees kind text := by
  obtain ⟨ts, depth⟩ := c
  obtain ⟨us, _⟩ := d
  cases ts with
  | nil =>
      obtain rfl := h.rest.nil_left
      rfl
  | cons t ts =>
      obtain ⟨u, us', rfl, htu, -⟩ := h.rest.cons_left
      exact Token.is_eq htu kind text

theorem expect (h : c.Alike d) (kind : TokenKind) (text : String) :
    Agree Alike (c.expect kind text) (d.expect kind text) := by
  obtain ⟨ts, depth⟩ := c
  obtain ⟨us, _⟩ := d
  cases ts with
  | nil =>
      obtain rfl := h.rest.nil_left
      trivial
  | cons t ts =>
      obtain ⟨u, us', rfl, htu, hrest⟩ := h.rest.cons_left
      unfold Cursor.expect
      dsimp only
      rw [Token.is_eq htu]
      split
      · exact ⟨hrest, h.depth⟩
      · trivial

end Alike

end Cursor

/-! ### Readers -/

/-- The same part read off the front of cursors, what is left differing in places only. -/
def ReadAlike {α : Type} (p q : α × Cursor) : Prop :=
  p.1 = q.1 ∧ p.2.Alike q.2

/-- A reader that places do not matter to. -/
def Placeless {α : Type} (reader : Reader α) : Prop :=
  ∀ c d, c.Alike d → Agree ReadAlike (reader c) (reader d)

section Readers

variable {operand expression : Reader Expr}

theorem readChain_placeless (h : Placeless operand) (level : Level) (fuel : Nat) (left : Expr) (chained : Nat)
    {c d : Cursor} (hcd : c.Alike d) :
    Agree (fun p q => p.1 = q.1 ∧ ReadAlike p.2 q.2) (readChain level operand fuel left chained c)
      (readChain level operand fuel left chained d) := by
  induction fuel generalizing left chained c d with
  | zero =>
      cases hnext : nextBinary? c.rest level with
      | none =>
          rw [ReadsAs.readChain_of_none hnext, ReadsAs.readChain_of_none (hcd.rest.nextBinary?_eq level ▸ hnext)]
          exact ⟨rfl, rfl, hcd⟩
      | some op =>
          obtain ⟨t, ts, hts, hop⟩ := exists_of_nextBinary? hnext
          obtain ⟨u, us, hus, htu, -⟩ := (hts ▸ hcd.rest).cons_left
          rw [ReadsAs.readChain_zero hts hop, ReadsAs.readChain_zero hus (Token.binaryOp?_eq htu level ▸ hop)]
          trivial
  | succ fuel ih =>
      cases hnext : nextBinary? c.rest level with
      | none =>
          rw [ReadsAs.readChain_of_none hnext, ReadsAs.readChain_of_none (hcd.rest.nextBinary?_eq level ▸ hnext)]
          exact ⟨rfl, rfl, hcd⟩
      | some op =>
          obtain ⟨t, ts, hts, hop⟩ := exists_of_nextBinary? hnext
          obtain ⟨u, us, hus, htu, hleft⟩ := (hts ▸ hcd.rest).cons_left
          rw [ReadsAs.readChain_succ hts hop, ReadsAs.readChain_succ hus (Token.binaryOp?_eq htu level ▸ hop)]
          have hleft : Cursor.Alike { c with rest := ts } { d with rest := us } := ⟨hleft, hcd.depth⟩
          refine hleft.descend.bind fun c₁ d₁ hcd₁ => ?_
          refine (h c₁ d₁ hcd₁).bind fun ⟨right, c₂⟩ ⟨right', d₂⟩ ⟨hright, hcd₂⟩ => ?_
          obtain rfl : right = right' := hright
          exact ih _ _ hcd₂

theorem readLevels_placeless (h : Placeless operand) (levels : List Level) :
    Placeless (readLevels operand levels) := by
  induction levels with
  | nil => exact h
  | cons level tighter ih =>
      intro c d hcd
      refine (ih c d hcd).bind fun ⟨first, c₁⟩ ⟨first', d₁⟩ ⟨hfirst, hcd₁⟩ => ?_
      obtain rfl : first = first' := hfirst
      refine (readChain_placeless ih level _ first 0 hcd₁).bind fun ⟨e, n, c₂⟩ ⟨e', n', d₂⟩ ⟨he, hn, hcd₂⟩ => ?_
      obtain rfl : n = n' := hn
      exact ⟨he, hcd₂.ascend n⟩

theorem readArguments_placeless (h : Placeless expression) (fuel : Nat) :
    Placeless (readArguments expression fuel) := by
  induction fuel with
  | zero => exact fun _ _ _ => trivial
  | succ fuel ih =>
      intro c d hcd
      refine (h c d hcd).bind fun ⟨arg, c₁⟩ ⟨arg', d₁⟩ ⟨harg, hcd₁⟩ => ?_
      obtain rfl : arg = arg' := harg
      dsimp only
      rw [hcd₁.sees]
      split
      · have htails : Cursor.Alike { c₁ with rest := c₁.rest.tail } { d₁ with rest := d₁.rest.tail } :=
          ⟨hcd₁.rest.tail, hcd₁.depth⟩
        refine (ih _ _ htails).bind fun ⟨args, c₂⟩ ⟨args', d₂⟩ ⟨hargs, hcd₂⟩ => ?_
        exact ⟨congrArg (arg :: ·) hargs, hcd₂⟩
      · exact ⟨rfl, hcd₁⟩

theorem readCall_placeless (h : Placeless expression) (name : String) : Placeless (readCall expression name) := by
  intro c d hcd
  rw [ReadsAs.readCall_eq, ReadsAs.readCall_eq]
  refine (hcd.expect _ _).bind fun c₁ d₁ hcd₁ => ?_
  have hgiven : Agree ReadAlike (ReadsAs.readGiven expression c₁) (ReadsAs.readGiven expression d₁) := by
    unfold ReadsAs.readGiven
    rw [hcd₁.sees, hcd₁.rest.length_eq]
    split
    · exact ⟨rfl, hcd₁⟩
    · exact readArguments_placeless h _ c₁ d₁ hcd₁
  refine hgiven.bind fun ⟨args, c₂⟩ ⟨args', d₂⟩ ⟨hargs, hcd₂⟩ => ?_
  obtain rfl : args = args' := hargs
  unfold ReadsAs.closeCall
  dsimp only
  rw [hcd₂.rest.isEmpty_eq]
  split
  · trivial
  · exact (hcd₂.expect _ _).bind fun _ _ hcd₃ => ⟨rfl, hcd₃⟩

theorem readPrimary_placeless (h : Placeless expression) : Placeless (readPrimary expression) := by
  rintro ⟨ts, depth⟩ ⟨us, _⟩ ⟨hrest, rfl⟩
  cases ts with
  | nil =>
      obtain rfl := hrest.nil_left
      trivial
  | cons t ts =>
      obtain ⟨u, us, rfl, htu, hrest⟩ := hrest.cons_left
      have hleft : Cursor.Alike ⟨ts, depth⟩ ⟨us, depth⟩ := ⟨hrest, rfl⟩
      unfold readPrimary
      dsimp only
      rw [← Token.kind_eq htu, ← Token.text_eq htu]
      split
      · split
        · exact ⟨rfl, hleft⟩
        · trivial
      · exact ⟨rfl, hleft⟩
      · rw [hleft.sees]
        split
        · exact readCall_placeless h t.text _ _ hleft
        · exact ⟨rfl, hleft⟩
      · split
        · refine (h _ _ hleft).bind fun ⟨e, c₁⟩ ⟨e', d₁⟩ ⟨he, hcd₁⟩ => ?_
          exact (hcd₁.expect _ _).bind fun _ _ hcd₂ => ⟨he, hcd₂⟩
        · trivial
      · trivial
      · trivial

theorem readUnary_placeless (h : Placeless expression) : Placeless (readUnary expression) := by
  rintro ⟨ts, depth⟩ ⟨us, _⟩ ⟨hrest, rfl⟩
  show Agree ReadAlike (readUnaryFrom expression depth ts) (readUnaryFrom expression depth us)
  induction ts generalizing us depth with
  | nil =>
      obtain rfl := hrest.nil_left
      exact readPrimary_placeless h _ _ ⟨rfl, rfl⟩
  | cons t ts ih =>
      have hall := hrest
      obtain ⟨u, us, rfl, htu, hrest⟩ := hrest.cons_left
      unfold readUnaryFrom
      rw [← Token.unaryOp?_eq htu]
      split
      · exact readPrimary_placeless h _ _ ⟨hall, rfl⟩
      · have hleft : Cursor.Alike ⟨ts, depth⟩ ⟨us, depth⟩ := ⟨hrest, rfl⟩
        refine hleft.descend.bind fun c₁ d₁ hcd₁ => ?_
        rw [hcd₁.depth]
        refine (ih d₁.depth us hrest).bind fun ⟨e, c₂⟩ ⟨e', d₂⟩ ⟨he, hcd₂⟩ => ?_
        exact ⟨congrArg (Expr.unary _) he, hcd₂.ascend 1⟩

end Readers

theorem readExpression_placeless (levels : Nat) : Placeless (readExpression levels) := by
  induction levels with
  | zero => exact fun _ _ _ => trivial
  | succ levels ih =>
      intro c d hcd
      refine hcd.descend.bind fun c₁ d₁ hcd₁ => ?_
      refine (readLevels_placeless (readUnary_placeless ih) Level.all c₁ d₁ hcd₁).bind
        fun ⟨e, c₂⟩ ⟨e', d₂⟩ ⟨he, hcd₂⟩ => ?_
      exact ⟨he, hcd₂.ascend 1⟩

/-- **The parser does not look at places**: tokens that differ in their places only have the same tree, or none. -/
theorem parse_placeless {ts us : List Token} (h : SameLexemes ts us) : Agree (· = ·) (parse ts) (parse us) := by
  unfold parse
  rw [h.isEmpty_eq]
  split
  · trivial
  · refine (readExpression_placeless _ ⟨ts, 0⟩ ⟨us, 0⟩ ⟨h, rfl⟩).bind fun ⟨e, c⟩ ⟨e', d⟩ ⟨he, hcd⟩ => ?_
    obtain ⟨left, depth⟩ := c
    obtain ⟨left', _⟩ := d
    cases left with
    | nil =>
        obtain rfl := hcd.rest.nil_left
        exact he
    | cons t left =>
        obtain ⟨u, left', rfl, -⟩ := hcd.rest.cons_left
        trivial

end Costing.Formula
