import Costing.Proofs.Formula.Reads
import Costing.Proofs.Result

/-!
# Formula — the parser and the grammar

The parser reads what the grammar derives, and nothing else.  It can only give up early, with
`SyntaxFault.tooDeep`.

* `ReadsAs`: a reader agrees with the rules of `Reads` at a layer.  Each reader of the parser does, given
  that the readers it calls do (`ReadsAs.level`, `ReadsAs.unary`, `ReadsAs.primary`).
* `readExpression_readsAs`: so does the reader of whole expressions, however deep it may go.
* `derives_of_parse`, `parse_of_derives`: a tree that the parser gives is one that all the tokens derive, and
  tokens that derive a tree are parsed to it or nest too deep.
* `parse_correct`: **the parser is correct**, and no text has two trees.
-/

namespace Costing.Formula

/-! ### Agreement -/

/-- The parser's one way to fail on tokens that the grammar derives. -/
abbrev Fault.tooDeep : Fault := .malformed .tooDeep

/-- A reader agrees with the rules at a layer. -/
structure ReadsAs (reader : Reader Expr) (layer : Layer) : Prop where
  sound {c c' : Cursor} {e : Expr} :
    reader c = .ok (e, c') → Reads (.layer layer) c.rest (.tree e) c'.rest
  complete {c : Cursor} {ts rest : List Token} {e : Expr} :
    Reads (.layer layer) ts (.tree e) rest → c.rest = ts →
    HoldsOr .tooDeep (fun r => r.1 = e ∧ r.2.rest = rest) (reader c)

theorem exists_of_nextBinary? {ts : List Token} {level : Level} {op : BinaryOp}
    (h : nextBinary? ts level = some op) : ∃ t rest, ts = t :: rest ∧ t.binaryOp? level = some op := by
  cases ts with
  | nil => cases h
  | cons t rest => exact ⟨t, rest, rfl, h⟩

theorem sees_cons (t : Token) (rest : List Token) (kind : TokenKind) (text : String) :
    sees (t :: rest) kind text = t.is kind text :=
  rfl

theorem exists_of_sees {ts : List Token} {kind : TokenKind} {text : String}
    (h : sees ts kind text) : ∃ t, ts = t :: ts.tail ∧ t.is kind text := by
  cases ts with
  | nil => cases h
  | cons t rest => exact ⟨t, rfl, h⟩

namespace Cursor

theorem sees_eq (c : Cursor) (kind : TokenKind) (text : String) :
    c.sees kind text = Formula.sees c.rest kind text :=
  rfl

theorem rest_of_descend {c c' : Cursor} (h : c.descend = .ok c') : c'.rest = c.rest := by
  unfold descend at h
  split at h
  · cases h
  · cases h; rfl

theorem descend_holdsOr (c : Cursor) : HoldsOr .tooDeep (fun c' => c'.rest = c.rest) c.descend := by
  unfold descend
  split <;> rfl

theorem of_expect {c c' : Cursor} {kind : TokenKind} {text : String} (h : c.expect kind text = .ok c') :
    ∃ t, t.is kind text ∧ c.rest = t :: c'.rest := by
  unfold expect at h
  split at h
  · cases h
  · next t rest hrest =>
      split at h
      · next his => cases h; exact ⟨t, his, hrest⟩
      · cases h

theorem expect_cons {c : Cursor} {kind : TokenKind} {text : String} {t : Token} {rest : List Token}
    (hrest : c.rest = t :: rest) (his : t.is kind text) :
    c.expect kind text = .ok { c with rest } := by
  simp only [expect, hrest, his, if_true]

end Cursor

namespace ReadsAs

/-! ### Chains -/

theorem readChain_of_none {level : Level} {operand : Reader Expr} {fuel n : Nat} {left : Expr} {c : Cursor}
    (h : nextBinary? c.rest level = none) : readChain level operand fuel left n c = .ok (left, n, c) := by
  unfold readChain
  split
  · rfl
  · next t rest hrest =>
      rw [hrest] at h
      replace h : t.binaryOp? level = none := h
      simp only [h]

theorem readChain_zero {level : Level} {operand : Reader Expr} {n : Nat} {left : Expr} {c : Cursor}
    {t : Token} {rest : List Token} {op : BinaryOp} (hrest : c.rest = t :: rest)
    (hop : t.binaryOp? level = some op) :
    readChain level operand 0 left n c = .error .tooDeep := by
  unfold readChain
  simp only [hrest, hop]

theorem readChain_succ {level : Level} {operand : Reader Expr} {fuel n : Nat} {left : Expr} {c : Cursor}
    {t : Token} {rest : List Token} {op : BinaryOp} (hrest : c.rest = t :: rest)
    (hop : t.binaryOp? level = some op) :
    readChain level operand (fuel + 1) left n c = (do
      let c ← Cursor.descend { c with rest }
      let (right, c) ← operand c
      readChain level operand fuel (.binary op left right) (n + 1) c) := by
  rw [readChain]
  simp only [hrest, hop]

section Chain

variable {l : Level} {operand : Reader Expr} (h : ReadsAs operand l.operand)

include h

theorem readChain_sound {fuel n m : Nat} {left e : Expr} {c c' : Cursor}
    (hread : readChain l operand fuel left n c = .ok (e, m, c')) :
    Reads (.more l left) c.rest (.tree e) c'.rest := by
  induction fuel generalizing left n c with
  | zero =>
      cases hnext : nextBinary? c.rest l with
      | none => cases (readChain_of_none hnext).symm.trans hread; exact .stop hnext
      | some op =>
          obtain ⟨t, rest, hrest, hop⟩ := exists_of_nextBinary? hnext
          cases (readChain_zero hrest hop).symm.trans hread
  | succ fuel ih =>
      cases hnext : nextBinary? c.rest l with
      | none => cases (readChain_of_none hnext).symm.trans hread; exact .stop hnext
      | some op =>
          obtain ⟨t, rest, hrest, hop⟩ := exists_of_nextBinary? hnext
          rw [readChain_succ hrest hop] at hread
          obtain ⟨c₁, h₁, hread⟩ := exists_of_bind_eq_ok hread
          obtain ⟨⟨right, c₂⟩, h₂, hread⟩ := exists_of_bind_eq_ok hread
          have hright := h.sound h₂
          rw [Cursor.rest_of_descend h₁] at hright
          rw [hrest]
          exact .operator hop hright (ih hread)

theorem readChain_complete {fuel n : Nat} {left e : Expr} {c : Cursor} {ts rest : List Token}
    (hread : Reads (.more l left) ts (.tree e) rest) (hts : c.rest = ts) :
    HoldsOr .tooDeep (fun r => r.1 = e ∧ r.2.2.rest = rest) (readChain l operand fuel left n c) := by
  induction fuel generalizing left n c ts with
  | zero =>
      cases hread with
      | stop hnone => rw [readChain_of_none (hts ▸ hnone)]; exact ⟨rfl, hts⟩
      | operator hop => rw [readChain_zero hts hop]; rfl
  | succ fuel ih =>
      cases hread with
      | stop hnone => rw [readChain_of_none (hts ▸ hnone)]; exact ⟨rfl, hts⟩
      | operator hop hright hmore =>
          rw [readChain_succ hts hop]
          refine (Cursor.descend_holdsOr _).bind fun c₁ h₁ => ?_
          refine (h.complete hright h₁).bind fun ⟨r, c₂⟩ ⟨hr, h₂⟩ => ?_
          subst hr
          exact ih hmore h₂

/-- A level is read as its chains, if its operands are read as the next layer. -/
theorem level : ReadsAs (readLevel l operand) (.chain l) where
  sound hread := by
    obtain ⟨⟨first, c₁⟩, h₁, hread⟩ := exists_of_bind_eq_ok hread
    obtain ⟨⟨e, n, c₂⟩, h₂, hread⟩ := exists_of_bind_eq_ok hread
    have hmore := h.readChain_sound h₂
    cases hread
    exact .chain (h.sound h₁) hmore
  complete hread hts := by
    cases hread with
    | chain hfirst hmore =>
        refine (h.complete hfirst hts).bind fun ⟨first, c₁⟩ ⟨he, hmid⟩ => ?_
        subst he
        exact (h.readChain_complete hmore hmid).bind fun ⟨e, n, c₂⟩ hlast => hlast

end Chain

/-- The levels are read as expressions, if what binds tighter than all of them is read as its layer. -/
theorem levels {tightest : Reader Expr} (h : ReadsAs tightest .unary) :
    ReadsAs (readLevels tightest Level.all) .expression := by
  have hproduct : ReadsAs (readLevel .product tightest) (.chain .product) := .level h
  have hsum : ReadsAs (readLevel .sum _) (.chain .sum) := .level hproduct
  have hcomparison : ReadsAs (readLevel .comparison _) (.chain .comparison) := .level hsum
  have hequality : ReadsAs (readLevel .equality _) (.chain .equality) := .level hcomparison
  have hand : ReadsAs (readLevel .and _) (.chain .and) := .level hequality
  exact .level hand

/-! ### Primaries and prefix operators -/

/-- What is given to a call, its opening parenthesis taken. -/
def readGiven (expression : Reader Expr) : Reader (List Expr) := fun c =>
  if c.sees .paren ")" then .ok ([], c) else readArguments expression (c.rest.length + 1) c

/-- The end of a call, its arguments read. -/
def closeCall (name : String) : List Expr × Cursor → Except Fault (Expr × Cursor) := fun (args, c) =>
  if c.rest.isEmpty then .error (.malformed (.unterminatedArguments name))
  else do
    let c ← c.expect .paren ")"
    return (.call name args, c)

theorem readCall_eq (expression : Reader Expr) (name : String) (c : Cursor) :
    readCall expression name c = (do closeCall name (← readGiven expression (← c.expect .paren "("))) := by
  unfold readCall
  congr 1
  funext c
  unfold readGiven
  split <;> rfl

theorem of_closeCall {name : String} {args : List Expr} {c c' : Cursor} {e : Expr}
    (h : closeCall name (args, c) = .ok (e, c')) :
    ∃ closing, e = .call name args ∧ closing.is .paren ")" ∧ c.rest = closing :: c'.rest := by
  unfold closeCall at h
  dsimp only at h
  split at h
  · cases h
  · obtain ⟨c₁, h₁, h⟩ := exists_of_bind_eq_ok h
    obtain ⟨closing, hclose, hrest⟩ := Cursor.of_expect h₁
    cases h
    exact ⟨closing, rfl, hclose, hrest⟩

theorem closeCall_cons {name : String} {args : List Expr} {c : Cursor} {closing : Token}
    {rest : List Token} (hrest : c.rest = closing :: rest) (hclose : closing.is .paren ")") :
    closeCall name (args, c) = .ok (.call name args, { c with rest }) := by
  simp only [closeCall, hrest, List.isEmpty_cons, Bool.false_eq_true, if_false,
    Cursor.expect_cons hrest hclose]
  rfl

section Primary

variable {expression : Reader Expr} (h : ReadsAs expression .expression)

include h

theorem readArguments_sound {fuel : Nat} {args : List Expr} {c c' : Cursor}
    (hread : readArguments expression fuel c = .ok (args, c')) :
    Reads .arguments c.rest (.arguments args) c'.rest := by
  induction fuel generalizing c args with
  | zero => cases hread
  | succ fuel ih =>
      obtain ⟨⟨arg, c₁⟩, h₁, hread⟩ := exists_of_bind_eq_ok hread
      have harg := h.sound h₁
      dsimp only at hread
      split at hread
      · next hcomma =>
          obtain ⟨⟨rest, c₂⟩, h₂, hread⟩ := exists_of_bind_eq_ok hread
          cases hread
          obtain ⟨t, hmid, his⟩ := exists_of_sees hcomma
          rw [hmid] at harg
          exact .argument harg his (ih h₂)
      · next hcomma =>
          cases hread
          exact .lastArgument harg (Bool.eq_false_iff.2 hcomma)

theorem readArguments_complete {fuel : Nat} {args : List Expr} {c : Cursor} {ts rest : List Token}
    (hread : Reads .arguments ts (.arguments args) rest) (hts : c.rest = ts) (hfuel : ts.length < fuel) :
    HoldsOr .tooDeep (fun r => r.1 = args ∧ r.2.rest = rest) (readArguments expression fuel c) := by
  induction fuel generalizing c args ts with
  | zero => exact absurd hfuel (Nat.not_lt_zero _)
  | succ fuel ih =>
      cases hread with
      | lastArgument harg hnone =>
          refine (h.complete harg hts).bind fun r hr => ?_
          obtain ⟨arg, c₁⟩ := r
          obtain ⟨he, hrest⟩ := hr
          dsimp only at he hrest ⊢
          rw [Cursor.sees_eq, hrest, if_neg (Bool.eq_false_iff.1 hnone)]
          exact ⟨he ▸ rfl, hrest⟩
      | argument harg hcomma hmore =>
          have hle := harg.length_le
          simp only [List.length_cons, Goal.least] at hle
          refine (h.complete harg hts).bind fun r hr => ?_
          obtain ⟨arg, c₁⟩ := r
          obtain ⟨he, hmid⟩ := hr
          dsimp only at he hmid ⊢
          rw [Cursor.sees_eq, hmid, sees_cons, if_pos hcomma]
          refine (ih hmore rfl (by omega)).bind fun r hr => ?_
          obtain ⟨args, c₂⟩ := r
          obtain ⟨hargs, hlast⟩ := hr
          exact ⟨he ▸ hargs ▸ rfl, hlast⟩

theorem readCall_sound {name : Token} {c c' : Cursor} {e : Expr} (hname : name.kind = .identifier)
    (hread : readCall expression name.text c = .ok (e, c')) :
    Reads (.layer .primary) (name :: c.rest) (.tree e) c'.rest := by
  rw [readCall_eq] at hread
  obtain ⟨c₁, h₁, hread⟩ := exists_of_bind_eq_ok hread
  obtain ⟨opening, hopen, hrest⟩ := Cursor.of_expect h₁
  obtain ⟨⟨args, c₂⟩, h₂, hread⟩ := exists_of_bind_eq_ok hread
  obtain ⟨closing, rfl, hclose, hrest₂⟩ := of_closeCall hread
  rw [hrest]
  unfold readGiven at h₂
  split at h₂
  · cases h₂
    rw [hrest₂]
    exact .call hname hopen hclose
  · next hsees =>
      have hargs := h.readArguments_sound h₂
      rw [hrest₂] at hargs
      exact .callWith hname hopen (Bool.eq_false_iff.2 hsees) hargs hclose

theorem readCall_complete {name opening : Token} {c : Cursor} {ts rest : List Token} {e : Expr}
    (hread : Reads (.layer .primary) (name :: opening :: ts) (.tree e) rest)
    (hname : name.kind = .identifier) (hopen : opening.is .paren "(") (hts : c.rest = opening :: ts) :
    HoldsOr .tooDeep (fun r => r.1 = e ∧ r.2.rest = rest) (readCall expression name.text c) := by
  rw [readCall_eq, Cursor.expect_cons hts hopen]
  cases hread with
  | leaf _ hsees => exact absurd ((hsees hname).symm.trans hopen) nofun
  | parentheses hparen => exact absurd (hname.symm.trans (Token.is_iff.1 hparen).1) nofun
  | @call _ _ closing _ _ _ hclose =>
      show HoldsOr _ _ (readGiven expression ⟨closing :: rest, c.depth⟩ >>= closeCall name.text)
      rw [readGiven, Cursor.sees_eq, sees_cons, if_pos hclose]
      show HoldsOr _ _ (closeCall name.text ([], ⟨closing :: rest, c.depth⟩))
      rw [closeCall_cons rfl hclose]
      exact ⟨rfl, rfl⟩
  | callWith _ _ hsees hargs hclose =>
      show HoldsOr _ _ (readGiven expression ⟨ts, c.depth⟩ >>= closeCall name.text)
      rw [readGiven, Cursor.sees_eq, if_neg (Bool.eq_false_iff.1 hsees)]
      refine (h.readArguments_complete hargs rfl (Nat.lt_succ_self _)).bind fun ⟨args, c₁⟩ hlast => ?_
      obtain ⟨he, hrest⟩ := hlast
      dsimp only at he hrest
      rw [closeCall_cons hrest hclose, he]
      exact ⟨rfl, rfl⟩

theorem readPrimary_sound {c c' : Cursor} {e : Expr} (hread : readPrimary expression c = .ok (e, c')) :
    Reads (.layer .primary) c.rest (.tree e) c'.rest := by
  unfold readPrimary at hread
  split at hread
  · cases hread
  · next t rest hrest =>
      rw [hrest]
      dsimp only at hread
      split at hread
      · next hkind =>
          split at hread
          · next x hx =>
              cases hread
              exact .leaf (by simp [Token.leaf?, hkind, hx]) (by simp [hkind])
          · cases hread
      · next hkind => cases hread; exact .leaf (by simp [Token.leaf?, hkind]) (by simp [hkind])
      · next hkind =>
          split at hread
          · exact h.readCall_sound hkind hread
          · next hsees =>
              cases hread
              exact .leaf (by simp [Token.leaf?, hkind]) fun _ => Bool.eq_false_iff.2 hsees
      · next hkind =>
          split at hread
          · next htext =>
              obtain ⟨⟨e, c₁⟩, h₁, hread⟩ := exists_of_bind_eq_ok hread
              obtain ⟨c₂, h₂, hread⟩ := exists_of_bind_eq_ok hread
              obtain ⟨closing, hclose, hrest₁⟩ := Cursor.of_expect h₂
              cases hread
              have hinner := h.sound h₁
              rw [hrest₁] at hinner
              exact .parentheses (Token.is_iff.2 ⟨hkind, htext⟩) hinner hclose
          · cases hread
      all_goals cases hread

theorem readPrimary_complete {c : Cursor} {ts rest : List Token} {e : Expr}
    (hread : Reads (.layer .primary) ts (.tree e) rest) (hts : c.rest = ts) :
    HoldsOr .tooDeep (fun r => r.1 = e ∧ r.2.rest = rest) (readPrimary expression c) := by
  cases hread with
  | @leaf t _ _ hleaf hname =>
      unfold Token.leaf? at hleaf
      split at hleaf
      · next hkind =>
          obtain ⟨x, hx, rfl⟩ := Option.map_eq_some_iff.1 hleaf
          simp only [readPrimary, hts, hkind, hx]
          exact ⟨rfl, rfl⟩
      · next hkind =>
          cases hleaf
          simp only [readPrimary, hts, hkind]
          exact ⟨rfl, rfl⟩
      · next hkind =>
          cases hleaf
          simp only [readPrimary, hts, hkind, Cursor.sees_eq, hname hkind, Bool.false_eq_true, if_false]
          exact ⟨rfl, rfl⟩
      all_goals cases hleaf
  | call hname hopen hclose =>
      simp only [readPrimary, hts, hname, Cursor.sees_eq, sees_cons, hopen, if_true]
      exact h.readCall_complete (.call hname hopen hclose) hname hopen rfl
  | callWith hname hopen hsees hargs hclose =>
      simp only [readPrimary, hts, hname, Cursor.sees_eq, sees_cons, hopen, if_true]
      exact h.readCall_complete (.callWith hname hopen hsees hargs hclose) hname hopen rfl
  | parentheses hopen hinner hclose =>
      obtain ⟨hkind, htext⟩ := Token.is_iff.1 hopen
      simp only [readPrimary, hts, hkind, htext, if_true]
      refine (h.complete hinner rfl).bind fun ⟨e, c₁⟩ ⟨he, hmid⟩ => ?_
      dsimp only at he hmid ⊢
      rw [Cursor.expect_cons hmid hclose]
      exact ⟨he, rfl⟩

/-- A primary is read as one, if expressions are. -/
theorem primary : ReadsAs (readPrimary expression) .primary where
  sound := h.readPrimary_sound
  complete := h.readPrimary_complete

theorem readUnaryFrom_sound {depth : Nat} {ts : List Token} {e : Expr} {c' : Cursor}
    (hread : readUnaryFrom expression depth ts = .ok (e, c')) :
    Reads (.layer .unary) ts (.tree e) c'.rest := by
  induction ts generalizing depth e c' with
  | nil => exact .primary rfl (h.primary.sound hread)
  | cons t rest ih =>
      unfold readUnaryFrom at hread
      split at hread
      · next hop => exact .primary hop (h.primary.sound hread)
      · next op hop =>
          obtain ⟨deeper, h₁, hread⟩ := exists_of_bind_eq_ok hread
          obtain ⟨⟨operand, c₁⟩, h₂, hread⟩ := exists_of_bind_eq_ok hread
          have hoperand := ih h₂
          cases hread
          exact .unary hop hoperand

theorem readUnaryFrom_complete {depth : Nat} {ts rest : List Token} {e : Expr}
    (hread : Reads (.layer .unary) ts (.tree e) rest) :
    HoldsOr .tooDeep (fun r => r.1 = e ∧ r.2.rest = rest) (readUnaryFrom expression depth ts) := by
  induction ts generalizing depth e with
  | nil =>
      cases hread with
      | primary _ hprimary => exact h.primary.complete hprimary rfl
  | cons t ts ih =>
      unfold readUnaryFrom
      cases hread with
      | primary hnone hprimary =>
          rw [show t.unaryOp? = none from hnone]
          exact h.primary.complete hprimary rfl
      | unary hop hoperand =>
          rw [hop]
          refine (Cursor.descend_holdsOr _).bind fun deeper _ => ?_
          refine (ih hoperand).bind fun ⟨operand, c₁⟩ ⟨he, hrest⟩ => ?_
          exact ⟨congrArg _ he, hrest⟩

/-- Prefix operators and a primary are read as their layer, if expressions are. -/
theorem unary : ReadsAs (readUnary expression) .unary where
  sound := h.readUnaryFrom_sound
  complete hread hts := h.readUnaryFrom_complete (hts ▸ hread)

end Primary

end ReadsAs

/-! ### The parser -/

/-- Expressions are read as such, however deep they may nest. -/
theorem readExpression_readsAs (levels : Nat) : ReadsAs (readExpression levels) .expression := by
  induction levels with
  | zero => exact ⟨nofun, fun _ _ => rfl⟩
  | succ levels ih =>
      refine ⟨fun hread => ?_, fun hread hts => ?_⟩
      · obtain ⟨c₁, h₁, hread⟩ := exists_of_bind_eq_ok hread
        obtain ⟨⟨e, c₂⟩, h₂, hread⟩ := exists_of_bind_eq_ok hread
        have hlevels := ih.unary.levels.sound h₂
        cases hread
        rwa [Cursor.rest_of_descend h₁] at hlevels
      · refine (Cursor.descend_holdsOr _).bind fun c₁ h₁ => ?_
        exact (ih.unary.levels.complete hread (h₁.trans hts)).bind fun _ hlast => hlast

/-- A tree that is parsed is one that the tokens derive, all of them. -/
theorem derives_of_parse {ts : List Token} {e : Expr} (h : parse ts = .ok e) :
    Derives ts (.tree .expression e) := by
  unfold parse at h
  split at h
  · cases h
  · obtain ⟨⟨e', c⟩, hread, h⟩ := exists_of_bind_eq_ok h
    obtain ⟨used, hused, hderives⟩ := ((readExpression_readsAs _).sound hread).derives
    dsimp only at h hused
    split at h
    · next hrest =>
        cases h
        rwa [hused, hrest, List.append_nil]
    · cases h

/-- Tokens that derive a tree are parsed to it, or nest too deep. -/
theorem parse_of_derives {ts : List Token} {e : Expr} (h : Derives ts (.tree .expression e)) :
    parse ts = .ok e ∨ parse ts = .error .tooDeep := by
  obtain ⟨t, rest, rfl, -⟩ := h.exists_head
  refine HoldsOr.eq_ok_or ?_
  have hreads := h.reads Closes.nil
  rw [List.append_nil] at hreads
  refine ((readExpression_readsAs _).complete hreads rfl).bind fun ⟨e', c⟩ ⟨he, hrest⟩ => ?_
  dsimp only at he hrest ⊢
  rw [hrest]
  exact he

/-- **The parser is correct**: a tree that it gives is one that all the tokens derive; tokens that derive a
tree are parsed to it, or nest too deep; and they derive no other tree. -/
theorem parse_correct (ts : List Token) (e : Expr) :
    (parse ts = .ok e → Derives ts (.tree .expression e)) ∧
    (Derives ts (.tree .expression e) → parse ts = .ok e ∨ parse ts = .error (.malformed .tooDeep)) ∧
    (∀ e', Derives ts (.tree .expression e) → Derives ts (.tree .expression e') → e = e') :=
  ⟨derives_of_parse, parse_of_derives, fun _ => Derives.unique⟩

end Costing.Formula
