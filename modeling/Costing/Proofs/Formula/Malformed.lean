import Costing.Proofs.Formula.Scan
import Costing.Proofs.Result

/-!
# Formula — texts that are no formula

Reading a formula text fails with a fault of the text itself, whatever the text (`Fault.isSyntax`): a character
that no token starts with, or tokens that are no expression.  None of the faults of evaluation comes from reading.

* `scan_failsOnly`: the faults of scanning (`Fault.OfScan`).
* `Allows`: a kind of faults that the parser keeps to, given what the tokens ahead are.  All of its faults are
  about how tokens stand, but for the one of a number that is none.
* `Allows.expression`: so does each reader of the parser, given that the readers it calls do.
* `parseFormula_failsBySyntax`: reading as a whole.
-/

namespace Costing.Formula

/-- A result, or a fault of the text. -/
abbrev FailsBySyntax {α : Type} (x : Except Fault α) : Prop :=
  FailsOnly (fun fault => fault.isSyntax = true) x

/-! ### Scanning -/

/-- A fault of scanning. -/
inductive Fault.OfScan : Fault → Prop where
  | unsupported (found : Char) (position : Nat) : OfScan (.unsupported found position)
  | unterminatedString (position : Nat) : OfScan (.malformed (.unterminatedString position))
  | malformedNumber (text : String) (position : Nat) : OfScan (.malformed (.malformedNumber text position))

theorem takeNumber_failsOnly (position : Nat) (cs : List Char) : FailsOnly Fault.OfScan (takeNumber position cs) := by
  unfold takeNumber
  dsimp only
  split
  · split
    · exact .malformedNumber _ _
    · trivial
  · trivial

theorem nextLexeme_failsOnly (position : Nat) (c : Char) (cs : List Char) :
    FailsOnly Fault.OfScan (nextLexeme position c cs) := by
  unfold nextLexeme
  split
  · trivial
  split
  · trivial
  split
  · split
    · trivial
    · exact .unterminatedString _
  split
  · exact (takeNumber_failsOnly position (c :: cs)).map _
  split
  · trivial
  · split
    · trivial
    · exact .unsupported _ _

theorem scanFrom_failsOnly (position : Nat) (cs : List Char) :
    FailsOnly Fault.OfScan (Token.scanFrom position cs) := by
  induction hn : cs.length using Nat.strongRecOn generalizing position cs with
  | ind n ih =>
  cases cs with
  | nil => rw [scanFrom_nil]; trivial
  | cons c cs =>
      cases hblank : Text.isBlank c with
      | true =>
          rw [scanFrom_cons_of_isBlank hblank]
          exact ih _ (hn ▸ Nat.lt_succ_self _) _ _ rfl
      | false =>
          cases hnext : nextLexeme position c cs with
          | error fault =>
              rw [scanFrom_cons_of_error hblank hnext]
              exact (nextLexeme_failsOnly position c cs).of_error hnext
          | ok taken =>
              obtain ⟨l, rest⟩ := taken
              have hlt : rest.length < n := hn ▸ Nat.lt_succ_of_le (nextLexeme_suffix hnext).length_le
              obtain ⟨ds, rfl⟩ := nextLexeme_suffix hnext
              rw [scanFrom_cons_of_ok hblank hnext]
              exact (ih _ hlt _ _ rfl).map _

theorem scan_failsOnly (formula : String) : FailsOnly Fault.OfScan (Token.scan formula) :=
  scanFrom_failsOnly 0 formula.toList

/-! ### Readers -/

/-- Faults that the parser keeps to where the tokens ahead are of some kind. -/
structure Allows (tokens : List Token → Prop) (P : Fault → Prop) : Prop where
  tail {t : Token} {rest : List Token} : tokens (t :: rest) → tokens rest
  number {t : Token} {rest : List Token} : tokens (t :: rest) → t.kind = .number → Number.read? t.text = none →
    P (.malformed (.invalidNumber t.text t.position))
  other {fault : SyntaxFault} : (∀ text position, fault ≠ .invalidNumber text position) → P (.malformed fault)

/-- A reader that fails with allowed faults only, and leaves tokens of the kind. -/
def KeepsTo (tokens : List Token → Prop) (P : Fault → Prop) {α : Type} (reader : Reader α) : Prop :=
  ∀ c : Cursor, tokens c.rest → Ensures P (fun r => tokens r.2.rest) (reader c)

namespace Allows

variable {tokens : List Token → Prop} {P : Fault → Prop} (h : Allows tokens P) {reader : Reader Expr}

include h

theorem tail' {ts : List Token} (hts : tokens ts) : tokens ts.tail := by
  cases ts with
  | nil => exact hts
  | cons t rest => exact h.tail hts

theorem descend {c : Cursor} (hc : tokens c.rest) : Ensures P (fun c' => tokens c'.rest) c.descend := by
  unfold Cursor.descend
  split
  · exact h.other nofun
  · exact hc

theorem expect {c : Cursor} (hc : tokens c.rest) (kind : TokenKind) (text : String) :
    Ensures P (fun c' => tokens c'.rest) (c.expect kind text) := by
  unfold Cursor.expect
  split
  · exact h.other nofun
  · next t rest hrest =>
      split
      · exact h.tail (hrest ▸ hc)
      · exact h.other nofun

theorem chain (hreader : KeepsTo tokens P reader) (level : Level) (fuel : Nat) (left : Expr) (chained : Nat)
    {c : Cursor} (hc : tokens c.rest) :
    Ensures P (fun r => tokens r.2.2.rest) (readChain level reader fuel left chained c) := by
  induction fuel generalizing left chained c with
  | zero =>
      unfold readChain
      split
      · exact hc
      · split
        · exact hc
        · exact h.other nofun
  | succ fuel ih =>
      unfold readChain
      split
      · exact hc
      · next t rest hrest =>
          split
          · exact hc
          · refine (h.descend (c := { c with rest }) (h.tail (hrest ▸ hc))).bind fun c₁ hc₁ => ?_
            exact (hreader c₁ hc₁).bind fun ⟨right, c₂⟩ hc₂ => ih _ _ hc₂

theorem levels (hreader : KeepsTo tokens P reader) (ls : List Level) : KeepsTo tokens P (readLevels reader ls) := by
  induction ls with
  | nil => exact hreader
  | cons level tighter ih =>
      intro c hc
      refine (ih c hc).bind fun ⟨first, c₁⟩ hc₁ => ?_
      exact (h.chain ih level _ first 0 hc₁).bind fun ⟨e, chained, c₂⟩ hc₂ => hc₂

theorem arguments (hreader : KeepsTo tokens P reader) (fuel : Nat) : KeepsTo tokens P (readArguments reader fuel) := by
  induction fuel with
  | zero => exact fun c hc => h.other nofun
  | succ fuel ih =>
      intro c hc
      refine (hreader c hc).bind fun ⟨arg, c₁⟩ hc₁ => ?_
      dsimp only
      split
      · exact (ih { c₁ with rest := c₁.rest.tail } (h.tail' hc₁)).bind fun ⟨args, c₂⟩ hc₂ => hc₂
      · exact hc₁

theorem call (hreader : KeepsTo tokens P reader) (name : String) : KeepsTo tokens P (readCall reader name) := by
  intro c hc
  refine (h.expect hc _ _).bind fun c₁ hc₁ => ?_
  -- The arguments, read or none, are followed by the closing parenthesis.
  have hclose (args : List Expr) (c : Cursor) (hc : tokens c.rest) : Ensures P (fun r => tokens r.2.rest)
      (if c.rest.isEmpty then .error (.malformed (.unterminatedArguments name)) else do
        let c ← c.expect .paren ")"
        return (Expr.call name args, c)) := by
    split
    · exact h.other nofun
    · exact (h.expect hc _ _).bind fun c₂ hc₂ => hc₂
  dsimp only
  split
  · exact hclose [] c₁ hc₁
  · exact (h.arguments hreader _ c₁ hc₁).bind fun ⟨args, c₂⟩ hc₂ => hclose args c₂ hc₂

theorem primary (hreader : KeepsTo tokens P reader) : KeepsTo tokens P (readPrimary reader) := by
  intro c hc
  unfold readPrimary
  split
  · exact h.other nofun
  next t rest hrest =>
  rw [hrest] at hc
  have hafter := h.tail hc
  dsimp only
  split
  · next hkind =>
      split
      · exact hafter
      · next hnone => exact h.number hc hkind hnone
  · exact hafter
  · split
    · exact h.call hreader _ _ hafter
    · exact hafter
  · split
    · refine (hreader { c with rest } hafter).bind fun ⟨e, c₁⟩ hc₁ => ?_
      exact (h.expect hc₁ _ _).bind fun c₂ hc₂ => hc₂
    · exact h.other nofun
  · exact h.other nofun
  · exact h.other nofun

theorem unary (hreader : KeepsTo tokens P reader) : KeepsTo tokens P (readUnary reader) := by
  rintro ⟨ts, depth⟩ hts
  show Ensures P _ (readUnaryFrom reader depth ts)
  induction ts generalizing depth with
  | nil => exact h.primary hreader ⟨[], depth⟩ hts
  | cons t rest ih =>
      unfold readUnaryFrom
      split
      · exact h.primary hreader ⟨t :: rest, depth⟩ hts
      · have hrest := h.tail hts
        refine (h.descend (c := ⟨rest, depth⟩) hrest).bind fun deeper _ => ?_
        exact (ih deeper.depth hrest).bind fun ⟨operand, c⟩ hc => hc

/-- Whole expressions, however deep they may nest. -/
theorem expression (levels : Nat) : KeepsTo tokens P (readExpression levels) := by
  induction levels with
  | zero => exact fun c hc => h.other nofun
  | succ levels ih =>
      intro c hc
      refine (h.descend hc).bind fun c₁ hc₁ => ?_
      exact (h.levels (h.unary ih) Level.all c₁ hc₁).bind fun ⟨e, c₂⟩ hc₂ => hc₂

/-- **What is wrong with tokens** that are no expression is an allowed fault. -/
theorem parse {ts : List Token} (hts : tokens ts) : FailsOnly P (Formula.parse ts) := by
  unfold Formula.parse
  split
  · exact h.other nofun
  · refine (h.expression _ ⟨ts, 0⟩ hts).failsOnly.bind fun ⟨e, c⟩ _ => ?_
    dsimp only
    split
    · trivial
    · exact h.other nofun

end Allows

/-- **What is wrong with a formula text** is a fault of the text. -/
theorem parseFormula_failsBySyntax (formula : String) : FailsBySyntax (parseFormula formula) := by
  have hallows : Allows (fun _ => True) fun fault => fault.isSyntax = true :=
    ⟨fun _ => trivial, fun _ _ _ => rfl, fun _ => rfl⟩
  refine ((scan_failsOnly formula).imp ?_).bind fun ts _ => hallows.parse trivial
  rintro _ (_ | _ | _) <;> rfl

end Costing.Formula
