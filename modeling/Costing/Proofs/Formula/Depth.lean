import Mathlib
import Costing.Proofs.Formula.Height

/-!
# Formula — the count of levels

Readers count the levels that they nest, up by one at a time and down again by one or by as many as a chain had
operators.  Here they also record each change of the count, in integers, so that a count below zero would show,
and also where they fail.

* `Recorded`: an outcome with the changes that were made on the way to it.
* `recordExpression` and the others: the readers of the parser, with their changes.
* `Keeps`: what a recorded computation keeps: it has the outcome of a plain one, and its changes stay in bounds.
  It is kept from step to step (`Keeps.bind`).
* `Steady`: a reader that comes back to the count it starts from, past what it started at.  Each reader is, if
  the readers that it calls are (`Steady.chain`, `Steady.primary`, `Steady.unary` and others).
* `Part.steady`: so all readers are, at all states.
-/

namespace Costing.Formula

/-! ### Recorded computations -/

/-- An outcome, and the changes that were made to the count of levels on the way to it. -/
structure Recorded (α : Type) where
  changes : List Int
  outcome : Except Fault α

namespace Recorded

variable {α β : Type}

/-- A computation without a change. -/
def still (x : Except Fault α) : Recorded α := ⟨[], x⟩

/-- Two computations, unless the first one fails. -/
def bind (x : Recorded α) (f : α → Recorded β) : Recorded β :=
  match x.outcome with
  | .ok a => ⟨x.changes ++ (f a).changes, (f a).outcome⟩
  | .error fault => ⟨x.changes, .error fault⟩

instance : Monad Recorded where
  pure a := still (.ok a)
  bind := bind

/-- One level deeper.  The count is up also if it is too deep. -/
def descend (c : Cursor) : Recorded Cursor := ⟨[1], c.descend⟩

/-- Some levels up again. -/
def ascend (c : Cursor) (levels : Nat) : Recorded Cursor := ⟨[-levels], .ok (c.ascend levels)⟩

end Recorded

open Recorded (still descend ascend)

/-- A reader that records its changes. -/
abbrev Recorder (α : Type) := Cursor → Recorded (α × Cursor)

/-- `readChain` with its changes. -/
def recordChain (level : Level) (operand : Recorder Expr) :
    Nat → Expr → Nat → Cursor → Recorded (Expr × Nat × Cursor)
  | fuel, left, chained, c =>
    match c.rest with
    | [] => return (left, chained, c)
    | t :: rest =>
      match t.binaryOp? level with
      | none => return (left, chained, c)
      | some op =>
        match fuel with
        | 0 => still (.error .tooDeep)
        | fuel + 1 => do
          let c ← descend { c with rest }
          let (right, c) ← operand c
          recordChain level operand fuel (.binary op left right) (chained + 1) c

/-- `readLevels` with its changes. -/
def recordLevels (tightest : Recorder Expr) : List Level → Recorder Expr
  | [], c => tightest c
  | level :: tighter, c => do
    let (first, c) ← recordLevels tightest tighter c
    let (e, chained, c) ← recordChain level (recordLevels tightest tighter) (maxDepth + 1) first 0 c
    return (e, ← ascend c chained)

/-- `readArguments` with its changes. -/
def recordArguments (expression : Recorder Expr) : Nat → Recorder (List Expr)
  | 0, _ => still (.error (.malformed .unexpectedEnd))
  | fuel + 1, c => do
    let (arg, c) ← expression c
    if c.sees .comma "," then
      let (args, c) ← recordArguments expression fuel { c with rest := c.rest.tail }
      return (arg :: args, c)
    else return ([arg], c)

/-- `readCall` with its changes. -/
def recordCall (expression : Recorder Expr) (name : String) : Recorder Expr := fun c => do
  let c ← still (c.expect .paren "(")
  let (args, c) ←
    if c.sees .paren ")" then still (.ok ([], c)) else recordArguments expression (c.rest.length + 1) c
  if c.rest.isEmpty then still (.error (.malformed (.unterminatedArguments name)))
  else
    let c ← still (c.expect .paren ")")
    return (.call name args, c)

/-- `readPrimary` with its changes. -/
def recordPrimary (expression : Recorder Expr) : Recorder Expr := fun c =>
  match c.rest with
  | [] => still (.error (.malformed .unexpectedEnd))
  | t :: rest =>
    let c := { c with rest }
    match t.kind with
    | .number =>
      match Number.read? t.text with
      | some x => still (.ok (.literal (.number x), c))
      | none => still (.error (.malformed (.invalidNumber t.text t.position)))
    | .string => still (.ok (.literal (.string t.text), c))
    | .identifier =>
      if c.sees .paren "(" then recordCall expression t.text c else still (.ok (ofName t.text, c))
    | .paren =>
      if t.text = "(" then do
        let (e, c) ← expression c
        let c ← still (c.expect .paren ")")
        return (e, c)
      else still (.error (.malformed (.unexpected t.text t.position)))
    | .operator | .comma => still (.error (.malformed (.unexpected t.text t.position)))

/-- `readUnaryFrom` with its changes. -/
def recordUnaryFrom (expression : Recorder Expr) (depth : Nat) : List Token → Recorded (Expr × Cursor)
  | [] => recordPrimary expression ⟨[], depth⟩
  | t :: rest =>
    match t.unaryOp? with
    | none => recordPrimary expression ⟨t :: rest, depth⟩
    | some op => do
      let deeper ← descend ⟨rest, depth⟩
      let (operand, c) ← recordUnaryFrom expression deeper.depth rest
      return (.unary op operand, ← ascend c 1)

/-- `readUnary` with its changes. -/
def recordUnary (expression : Recorder Expr) : Recorder Expr := fun c =>
  recordUnaryFrom expression c.depth c.rest

/-- `readExpression` with its changes. -/
def recordExpression : Nat → Recorder Expr
  | 0, _ => still (.error .tooDeep)
  | levels + 1, c => do
    let c ← descend c
    let (e, c) ← recordLevels (recordUnary (recordExpression levels)) Level.all c
    return (e, ← ascend c 1)

/-! ### The count -/

/-- The counts that changes lead through, from a first one on. -/
def counts (first : Int) (changes : List Int) : List Int :=
  changes.scanl (· + ·) first

theorem mem_counts_append {n first : Int} {before after : List Int} :
    n ∈ counts first (before ++ after) ↔ n ∈ counts first before ∨ n ∈ counts (first + before.sum) after := by
  induction before generalizing first with
  | nil =>
      have hfirst : first ∈ counts first after := by cases after <;> simp [counts]
      simp only [List.nil_append, List.sum_nil, add_zero, counts, List.scanl_nil, List.mem_singleton]
      exact ⟨.inr, fun h => h.elim (fun heq => heq ▸ hfirst) id⟩
  | cons change before ih =>
      have hcons (changes : List Int) : counts first (change :: changes) = first :: counts (first + change) changes :=
        List.scanl_cons ..
      rw [List.cons_append, hcons, hcons, List.mem_cons, List.mem_cons, ih, List.sum_cons, add_assoc, or_assoc]

/-- A cursor has taken at least one token since another. -/
structure Cursor.Past (c start : Cursor) : Prop where
  suffix : c.rest <:+ start.rest
  fewer : c.rest.length < start.rest.length

theorem Cursor.Past.of_cons {c start : Cursor} {t : Token} {rest : List Token} (hstart : start.rest = t :: rest)
    (h : c.rest <:+ rest) : c.Past start :=
  ⟨hstart ▸ h.trans (List.suffix_cons t rest), hstart ▸ Nat.lt_succ_of_le h.length_le⟩

theorem Cursor.Past.trans {c mid start : Cursor} (h : c.rest <:+ mid.rest) (hmid : mid.Past start) : c.Past start :=
  ⟨h.trans hmid.suffix, h.length_le.trans_lt hmid.fewer⟩

/-- A recorded computation that starts at a count of levels: it has the outcome of a plain one, the counts stay
from zero to one past the limit, and what it comes to is within the limit, at the count that is recorded. -/
structure Keeps {α : Type} (depth : Nat) (x : Recorded α) (y : Except Fault α) (cursor : α → Cursor)
    (Q : α → Prop) : Prop where
  outcome : x.outcome = y
  within {n : Int} : n ∈ counts depth x.changes → 0 ≤ n ∧ n ≤ maxDepth + 1
  last {a : α} : y = .ok a → depth + x.changes.sum = (cursor a).depth ∧ (cursor a).depth ≤ maxDepth
  result {a : α} : y = .ok a → Q a

namespace Keeps

variable {α β : Type} {depth : Nat} {cursor : α → Cursor} {cursor' : β → Cursor} {Q : α → Prop} {R : β → Prop}

/-- Counts are kept from one computation to the next. -/
theorem bind {x : Recorded α} {y : Except Fault α} {f : α → Recorded β} {g : α → Except Fault β}
    (hx : Keeps depth x y cursor Q)
    (hf : ∀ a, (cursor a).depth ≤ maxDepth → Q a → Keeps (cursor a).depth (f a) (g a) cursor' R) :
    Keeps depth (x >>= f) (y >>= g) cursor' R := by
  obtain ⟨changes, outcome⟩ := x
  obtain rfl : outcome = y := hx.outcome
  cases outcome with
  | error fault => exact ⟨rfl, hx.within, nofun, nofun⟩
  | ok a =>
      obtain ⟨hsum, hle⟩ := hx.last rfl
      have hnext := hf a hle (hx.result rfl)
      refine ⟨hnext.outcome, fun {n} hn => ?_, fun {b} hb => ?_, hnext.result⟩
      · rcases mem_counts_append.1 hn with hn | hn
        · exact hx.within hn
        · rw [hsum] at hn
          exact hnext.within hn
      · obtain ⟨hsum', hle'⟩ := hnext.last hb
        have happend : (changes ++ (f a).changes).sum = changes.sum + (f a).changes.sum := List.sum_append
        show depth + (changes ++ (f a).changes).sum = _ ∧ _
        rw [happend, ← add_assoc, hsum]
        exact ⟨hsum', hle'⟩

/-- The count stands still. -/
theorem still {y : Except Fault α} (hdepth : depth ≤ maxDepth)
    (h : ∀ a, y = .ok a → (cursor a).depth = depth ∧ Q a) : Keeps depth (Recorded.still y) y cursor Q where
  outcome := rfl
  within hn := by
    cases List.mem_singleton.1 hn
    omega
  last ha := by
    rw [(h _ ha).1]
    exact ⟨add_zero _, hdepth⟩
  result ha := (h _ ha).2

theorem ok {a : α} (hdepth : depth ≤ maxDepth) (ha : (cursor a).depth = depth) (h : Q a) :
    Keeps depth (Recorded.still (.ok a)) (.ok a) cursor Q :=
  still hdepth fun _ heq => Except.ok.inj heq ▸ ⟨ha, h⟩

theorem error {fault : Fault} (hdepth : depth ≤ maxDepth) :
    Keeps depth (Recorded.still (.error fault)) (.error fault) cursor Q :=
  still hdepth nofun

theorem imp {x : Recorded α} {y : Except Fault α} {P : α → Prop} (h : Keeps depth x y cursor P)
    (himp : ∀ a, P a → Q a) : Keeps depth x y cursor Q :=
  ⟨h.outcome, h.within, h.last, fun ha => himp _ (h.result ha)⟩

theorem expect {c : Cursor} (kind : TokenKind) (text : String) (hc : c.depth ≤ maxDepth) :
    Keeps c.depth (Recorded.still (c.expect kind text)) (c.expect kind text) id fun c' =>
      c'.depth = c.depth ∧ c'.Past c :=
  still hc fun c' h => by
    obtain ⟨t, -, hrest⟩ := Cursor.of_expect h
    exact ⟨Cursor.depth_of_expect h, Cursor.depth_of_expect h, .of_cons hrest (List.suffix_refl _)⟩

/-- The count goes up by one, to the limit or one past it. -/
theorem descend {c : Cursor} (hc : c.depth ≤ maxDepth) :
    Keeps c.depth (Recorded.descend c) c.descend id fun c' => c'.rest = c.rest ∧ c'.depth = c.depth + 1 where
  outcome := rfl
  within hn := by
    have hn : _ ∈ [(c.depth : Int), c.depth + 1] := hn
    simp only [List.mem_cons, List.not_mem_nil, or_false] at hn
    omega
  last ha := by
    obtain ⟨hdepth, hle⟩ := Cursor.depth_of_descend ha
    rw [id, hdepth]
    exact ⟨by simp [Recorded.descend], hle⟩
  result ha := ⟨Cursor.rest_of_descend ha, (Cursor.depth_of_descend ha).1⟩

/-- The count goes down by no more than it is. -/
theorem ascend {c : Cursor} {levels : Nat} {f : Cursor → α} (hlevels : levels ≤ c.depth) (hc : c.depth ≤ maxDepth)
    (hcursor : cursor (f (c.ascend levels)) = c.ascend levels) (h : Q (f (c.ascend levels))) :
    Keeps c.depth (do return f (← Recorded.ascend c levels)) (.ok (f (c.ascend levels))) cursor Q where
  outcome := rfl
  within hn := by
    have hn : _ ∈ [(c.depth : Int), c.depth + -levels] := hn
    simp only [List.mem_cons, List.not_mem_nil, or_false] at hn
    omega
  last ha := by
    cases ha
    rw [hcursor]
    show (c.depth : Int) + (-levels + 0) = (c.depth - levels : Nat) ∧ c.depth - levels ≤ maxDepth
    omega
  result ha := by cases ha; exact h

end Keeps

/-! ### Readers -/

/-- A reader with its changes: from a count within the limit, it comes back to that count, past what it started
at. -/
def Steady {α : Type} (recorder : Recorder α) (reader : Reader α) : Prop :=
  ∀ c : Cursor, c.depth ≤ maxDepth →
    Keeps c.depth (recorder c) (reader c) Prod.snd fun r => r.2.depth = c.depth ∧ r.2.Past c

namespace Steady

variable {recorder : Recorder Expr} {reader : Reader Expr}

/-- A chain is up by the operators it has read. -/
theorem chain (h : Steady recorder reader) (level : Level) (fuel : Nat) (left : Expr) (chained : Nat)
    (c : Cursor) (hc : c.depth ≤ maxDepth) :
    Keeps c.depth (recordChain level recorder fuel left chained c) (readChain level reader fuel left chained c)
      (fun r => r.2.2) fun r => r.2.2.depth + chained = c.depth + r.2.1 ∧ r.2.2.rest <:+ c.rest := by
  induction fuel generalizing left chained c with
  | zero =>
      obtain ⟨_ | ⟨t, rest⟩, depth⟩ := c
      · exact .ok hc rfl ⟨rfl, List.suffix_refl _⟩
      · rw [recordChain, readChain]
        dsimp only
        cases t.binaryOp? level with
        | none => exact .ok hc rfl ⟨rfl, List.suffix_refl _⟩
        | some op => exact .error hc
  | succ fuel ih =>
      obtain ⟨_ | ⟨t, rest⟩, depth⟩ := c
      · exact .ok hc rfl ⟨rfl, List.suffix_refl _⟩
      · rw [recordChain, readChain]
        dsimp only
        cases t.binaryOp? level with
        | none => exact .ok hc rfl ⟨rfl, List.suffix_refl _⟩
        | some op =>
            refine (Keeps.descend (c := ⟨rest, depth⟩) hc).bind ?_
            rintro c₁ hc₁ ⟨hrest₁, hdepth₁⟩
            refine (h c₁ hc₁).bind ?_
            rintro ⟨right, c₂⟩ hc₂ ⟨hdepth₂, hpast⟩
            refine (ih (.binary op left right) (chained + 1) c₂ hc₂).imp ?_
            rintro ⟨e, m, c₃⟩ ⟨hdepth₃, hsuffix⟩
            dsimp only at *
            refine ⟨by omega, hsuffix.trans (hpast.suffix.trans ?_)⟩
            rw [hrest₁]
            exact List.suffix_cons t rest

/-- A level of operators, all of whose levels are taken back at its end. -/
theorem levels (h : Steady recorder reader) (ls : List Level) :
    Steady (recordLevels recorder ls) (readLevels reader ls) := by
  induction ls with
  | nil => exact h
  | cons l ls ih =>
      intro c hc
      refine (ih c hc).bind fun ⟨first, c₁⟩ hc₁ ⟨hdepth₁, hpast⟩ => ?_
      refine (ih.chain l _ first 0 c₁ hc₁).bind fun ⟨e, chained, c₂⟩ hc₂ ⟨hdepth₂, hsuffix⟩ => ?_
      dsimp only at *
      refine .ascend (f := fun c => (e, c)) (by omega) hc₂ rfl ⟨?_, .trans hsuffix hpast⟩
      show c₂.depth - chained = c.depth
      omega

/-- Arguments, each at the count of the call. -/
theorem arguments (h : Steady recorder reader) (fuel : Nat) :
    Steady (recordArguments recorder fuel) (readArguments reader fuel) := by
  induction fuel with
  | zero => exact fun c hc => .error hc
  | succ fuel ih =>
      intro c hc
      refine (h c hc).bind fun ⟨arg, c₁⟩ hc₁ ⟨hdepth₁, hpast⟩ => ?_
      dsimp only at *
      split
      · refine (ih { c₁ with rest := c₁.rest.tail } hc₁).bind fun ⟨args, c₂⟩ hc₂ ⟨hdepth₂, hpast₂⟩ => ?_
        refine .ok hc₂ rfl ⟨hdepth₂.trans hdepth₁, .trans ?_ hpast⟩
        exact hpast₂.suffix.trans (List.tail_suffix _)
      · exact .ok hc₁ rfl ⟨hdepth₁, hpast⟩

/-- A call: its parentheses are taken at the count of its arguments. -/
theorem call (h : Steady recorder reader) (name : String) :
    Steady (recordCall recorder name) (readCall reader name) := by
  intro c hc
  refine (Keeps.expect .paren "(" hc).bind fun c₁ hc₁ ⟨hdepth₁, hpast₁⟩ => ?_
  -- the arguments, read or none, are followed by the closing parenthesis
  have hclose (r : List Expr × Cursor) (hr : r.2.depth ≤ maxDepth) (hkept : r.2.depth = c₁.depth ∧ r.2.rest <:+ c₁.rest) :
      Keeps r.2.depth
        (if r.2.rest.isEmpty then Recorded.still (.error (.malformed (.unterminatedArguments name)))
          else do
            let c ← Recorded.still (r.2.expect .paren ")")
            return (Expr.call name r.1, c))
        (if r.2.rest.isEmpty then .error (.malformed (.unterminatedArguments name))
          else do
            let c ← r.2.expect .paren ")"
            return (Expr.call name r.1, c))
        Prod.snd fun r => r.2.depth = c.depth ∧ r.2.Past c := by
    split
    · exact .error hr
    · refine (Keeps.expect .paren ")" hr).bind fun c₂ hc₂ ⟨hdepth₂, hpast₂⟩ => ?_
      exact .ok hc₂ rfl ⟨hdepth₂.trans (hkept.1.trans hdepth₁), .trans (hpast₂.suffix.trans hkept.2) hpast₁⟩
  dsimp only
  split
  · exact hclose ([], c₁) hc₁ ⟨rfl, List.suffix_refl _⟩
  · exact (h.arguments _ c₁ hc₁).bind fun r hr hkept => hclose r hr ⟨hkept.1, hkept.2.suffix⟩

theorem primary (h : Steady recorder reader) : Steady (recordPrimary recorder) (readPrimary reader) := by
  intro c hc
  unfold recordPrimary readPrimary
  obtain ⟨_ | ⟨t, rest⟩, depth⟩ := c
  · exact .error hc
  · have hrest (c : Cursor) (hc : c.rest = rest) : c.Past ⟨t :: rest, depth⟩ :=
      .of_cons rfl (hc ▸ List.suffix_refl _)
    dsimp only
    cases t.kind with
    | number =>
        dsimp only
        cases Number.read? t.text with
        | some x => exact .ok hc rfl ⟨rfl, hrest _ rfl⟩
        | none => exact .error hc
    | string => exact .ok hc rfl ⟨rfl, hrest _ rfl⟩
    | identifier =>
        dsimp only
        split
        · refine (h.call t.text ⟨rest, depth⟩ hc).imp fun r hr => ⟨hr.1, .trans hr.2.suffix (hrest _ rfl)⟩
        · exact .ok hc rfl ⟨rfl, hrest _ rfl⟩
    | paren =>
        dsimp only
        split
        · refine (h ⟨rest, depth⟩ hc).bind fun ⟨e, c₁⟩ hc₁ ⟨hdepth₁, hpast₁⟩ => ?_
          refine (Keeps.expect .paren ")" hc₁).bind fun c₂ hc₂ ⟨hdepth₂, hpast₂⟩ => ?_
          refine .ok hc₂ rfl ⟨hdepth₂.trans hdepth₁, ?_⟩
          exact .trans (hpast₂.suffix.trans hpast₁.suffix) (hrest _ rfl)
        · exact .error hc
    | operator | comma => exact .error hc

/-- Prefix operators: each is a level up for its operand only. -/
theorem unary (h : Steady recorder reader) : Steady (recordUnary recorder) (readUnary reader) := by
  rintro ⟨ts, depth⟩ hc
  show Keeps depth (recordUnaryFrom recorder depth ts) (readUnaryFrom reader depth ts) _ _
  induction ts generalizing depth with
  | nil => exact h.primary ⟨[], depth⟩ hc
  | cons t rest ih =>
      unfold recordUnaryFrom readUnaryFrom
      cases t.unaryOp? with
      | none => exact h.primary ⟨t :: rest, depth⟩ hc
      | some op =>
          refine (Keeps.descend (c := ⟨rest, depth⟩) hc).bind ?_
          rintro c₁ hc₁ ⟨hrest₁, hdepth₁⟩
          refine (ih c₁.depth hc₁).bind ?_
          rintro ⟨operand, c₂⟩ hc₂ ⟨hdepth₂, hpast⟩
          dsimp only [id] at *
          refine .ascend (f := fun c => (Expr.unary op operand, c)) (by omega) hc₂ rfl ⟨?_, ?_⟩
          · show c₂.depth - 1 = depth
            omega
          · exact .of_cons rfl hpast.suffix

/-- Expressions, however deep they may nest. -/
theorem expression (levels : Nat) : Steady (recordExpression levels) (readExpression levels) := by
  induction levels with
  | zero => exact fun c hc => .error hc
  | succ levels ih =>
      intro c hc
      refine (Keeps.descend hc).bind fun c₁ hc₁ ⟨hrest₁, hdepth₁⟩ => ?_
      refine (ih.unary.levels Level.all c₁ hc₁).bind fun ⟨e, c₂⟩ hc₂ ⟨hdepth₂, hpast⟩ => ?_
      dsimp only [id] at *
      refine .ascend (f := fun c => (e, c)) (by omega) hc₂ rfl ⟨?_, hrest₁ ▸ hpast.suffix, hrest₁ ▸ hpast.fewer⟩
      show c₂.depth - 1 = c.depth
      omega

end Steady

/-! ### All readers -/

/-- What one reader of the parser reads; a chain is of one level of operators, and what binds tighter. -/
inductive Part where
  | expression
  | chain (level : Level)
  | unary
  | primary
  | call (name : String)

namespace Part

/-- The reader of a part, in which expressions nest less than `levels` deep. -/
def read (levels : Nat) : Part → Reader Expr
  | expression => readExpression levels
  | chain level => readLevels (readUnary (readExpression levels)) (Level.all.dropWhile (· ≠ level))
  | unary => readUnary (readExpression levels)
  | primary => readPrimary (readExpression levels)
  | call name => readCall (readExpression levels) name

/-- `read` with its changes. -/
def record (levels : Nat) : Part → Recorder Expr
  | expression => recordExpression levels
  | chain level => recordLevels (recordUnary (recordExpression levels)) (Level.all.dropWhile (· ≠ level))
  | unary => recordUnary (recordExpression levels)
  | primary => recordPrimary (recordExpression levels)
  | call name => recordCall (recordExpression levels) name

theorem steady (levels : Nat) (part : Part) : Steady (part.record levels) (part.read levels) := by
  have h := Steady.expression levels
  cases part with
  | expression => exact h
  | chain level => exact h.unary.levels _
  | unary => exact h.unary
  | primary => exact h.primary
  | call name => exact h.call name

/-- A part is read from a cursor in balance: recording the changes changes no outcome; the count is never below
zero, nor more than one past the limit; and what is read leaves the count where it was, with all changes taken
back, and at least one token less to come. -/
structure Balanced (levels : Nat) (part : Part) (c : Cursor) : Prop where
  outcome : (part.record levels c).outcome = part.read levels c
  within : ∀ n ∈ counts c.depth (part.record levels c).changes, 0 ≤ n ∧ n ≤ maxDepth + 1
  takenBack {e : Expr} {c' : Cursor} : part.read levels c = .ok (e, c') →
    (part.record levels c).changes.sum = 0 ∧ c'.depth = c.depth ∧ c'.Past c

/-- **The count of levels is balanced**, in each reader of the parser and at each state within the limit. -/
theorem balanced (levels : Nat) (part : Part) {c : Cursor} (hc : c.depth ≤ maxDepth) : part.Balanced levels c := by
  have hkeeps := part.steady levels c hc
  refine ⟨hkeeps.outcome, fun n hn => hkeeps.within hn, fun {e c'} h => ?_⟩
  obtain ⟨hdepth, hpast⟩ := hkeeps.result h
  have hsum := (hkeeps.last h).1
  dsimp only at hdepth hsum
  exact ⟨by omega, hdepth, hpast⟩

/-- A parenthesis after a prefix operator, at one level below the limit: the operator takes the count to the limit,
the parenthesis past it. -/
theorem balanced_past_limit :
    let c : Cursor := ⟨[⟨.operator, "-", 0⟩, ⟨.paren, "(", 1⟩, ⟨.identifier, "a", 2⟩], 255⟩
    c.depth ≤ maxDepth ∧ (unary.record (maxDepth + 1) c).changes = [1, 1] ∧ unary.Balanced (maxDepth + 1) c := by
  intro c
  have hc : c.depth ≤ maxDepth := by decide
  exact ⟨hc, by decide +kernel, unary.balanced (maxDepth + 1) hc⟩

end Part

end Costing.Formula
