import Costing.Proofs.Formula.Identifiers
import Costing.Proofs.Formula.Tower
import Costing.Proofs.Validation.Words
import Costing.Validation.Name

/-!
# Validation — names that can be declared

A param or a variable is read by its name, so the names that may be declared are compared with what formulas read.

* `isValidName_eq_true_iff`: such a name is a word that is no operator and no literal.
* `isValidName_iff_parseFormula`: **the names that may be declared** are the formulas that read just themselves.
-/

namespace Costing.Validation

open Costing.Formula

/-- Names that may be declared are words that are neither operators nor literals. -/
theorem isValidName_eq_true_iff {name : String} :
    isValidName name = true ↔ IsName name ∧ name ∉ literalNames.map Prod.fst := by
  have hword : IsName name ↔ hasNameForm name.toList = true ∧ wordOperator? name = none := by
    unfold IsName
    cases name.toList with
    | nil => simp [hasNameForm]
    | cons c cs => simp [hasNameForm, and_assoc]
  have hliteral : literalWords = literalNames.map Prod.fst := rfl
  rw [hword, isValidName, Bool.and_eq_true, Bool.and_eq_true, Option.isNone_iff_eq_none, hliteral]
  simp only [Bool.not_eq_true', List.contains_eq_mem, decide_eq_false_iff_not]

/-- **A name may be declared if a formula of it alone reads it**, and not otherwise. -/
theorem isValidName_iff_parseFormula (name : String) :
    isValidName name = true ↔ parseFormula name = .ok (.identifier name) := by
  rw [isValidName_eq_true_iff]
  constructor
  · rintro ⟨hword, hliteral⟩
    refine parseFormula_of_readFrom (readFrom_expression (fun rest hrest => ?_) (by decide))
    exact (readFrom_name hword hliteral _ _ rest hrest).mono fun _ hts => hts.levels stacked_all
  · intro h
    have hmention : name ∈ (Expr.identifier name).mentions := List.mem_singleton_self name
    have hread : name ∈ (Expr.identifier name).identifiers := Expr.mem_identifiers.2 (Expr.mem_nodes_self _)
    exact ⟨isName_of_mem_mentions h hmention, not_literal_of_parseFormula h hread⟩

end Costing.Validation
