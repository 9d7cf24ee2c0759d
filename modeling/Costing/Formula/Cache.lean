import Costing.Formula.Parser

/-!
# Formula — Cache

Formula texts with the outcome of reading them, faults included, so that each text is read once.  An
outcome that is a tree carries a serial number, by which trees of one reading can be told from equal
trees of another.  Whatever a cache holds is what reading the text gives, so reading through it gives
the same (`parse_fst`).
-/

namespace Costing.Formula

/-- A tree with the number of the reading that gave it. -/
structure Numbered where
  expr : Expr
  serial : Nat

/-- The outcomes so far and the number of readings. -/
structure Cache where
  outcomes : Dict (Except Fault Numbered)
  readings : Nat
  sound {formula : String} {outcome : Except Fault Numbered} :
    outcomes.get? formula = some outcome → outcome.map Numbered.expr = parseFormula formula

namespace Cache

/-- No outcome. -/
def empty : Cache := ⟨.empty, 0, nofun⟩

/-- The number of texts. -/
def size (c : Cache) : Nat := c.outcomes.size

/-- The outcome of reading a text that is not in the cache. -/
def readNew (c : Cache) (formula : String) : Except Fault Numbered :=
  (parseFormula formula).map (⟨·, c.readings⟩)

theorem readNew_expr (c : Cache) (formula : String) :
    (c.readNew formula).map Numbered.expr = parseFormula formula := by
  unfold readNew
  cases parseFormula formula <;> rfl

/-- Reads a text and keeps the outcome. -/
def keepNew (c : Cache) (formula : String) : Cache where
  outcomes := c.outcomes.put formula (c.readNew formula)
  readings := c.readings + 1
  sound := by
    intro other kept h
    rw [Dict.get?_put] at h
    split at h
    · next heq => cases h; exact heq ▸ c.readNew_expr formula
    · exact c.sound h

/-- The outcome of reading a text, taken from the cache if it is there and else put into it. -/
def parse (c : Cache) (formula : String) : Except Fault Numbered × Cache :=
  match c.outcomes.get? formula with
  | some outcome => (outcome, c)
  | none => (c.readNew formula, c.keepNew formula)

/-- Forgets all outcomes; later readings have new numbers. -/
def clear (c : Cache) : Cache := { c with outcomes := .empty, sound := nofun }

/-- Reading through a cache gives what reading gives. -/
theorem parse_fst (c : Cache) (formula : String) :
    (c.parse formula).1.map Numbered.expr = parseFormula formula := by
  unfold parse
  split
  · next h => exact c.sound h
  · exact c.readNew_expr formula

end Cache

end Costing.Formula
