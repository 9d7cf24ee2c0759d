import Costing.Number.Dyadic

/-!
# Number — what is not a number

An operation with an operand that is not a number gives none (`isNaN_neg`, `isNaN_add`, `isNaN_sub`, `isNaN_mul`,
`isNaN_div`, `isNaN_remainder`), and what is not a number is not finite.  The quotient of two zeros
stands for what is not a number (`isNaN_nan`).
-/

namespace Costing.Number

open Float.Model (UnpackedFloat)

variable {x y z : Float}

theorem isNaN_nan : (0.0 / 0.0 : Float).isNaN := by
  decide

theorem unpack_of_isNaN (h : x.isNaN) : x.toModel.unpack = .notANumber := by
  have hx : x.toModel.unpack.isNaN := h
  cases hu : x.toModel.unpack with
  | notANumber => rfl
  | infinity | zero | finite => rw [hu] at hx; cases hx

theorem isNaN_of_pack {u : UnpackedFloat} (hx : x.toModel = .pack u) (hu : u = .notANumber) : x.isNaN := by
  show x.toModel.unpack.isNaN
  rw [hx, hu]
  decide

theorem isFinite_of_isNaN (h : x.isNaN) : x.isFinite = false := by
  show x.toModel.unpack.isFinite = false
  rw [unpack_of_isNaN h]
  rfl

theorem not_isNaN_of_isFinite (h : x.isFinite) : x.isNaN = false :=
  Bool.eq_false_iff.2 fun hnan => Bool.eq_false_iff.1 (isFinite_of_isNaN hnan) h

theorem isNaN_neg (h : x.isNaN) : (-x).isNaN :=
  isNaN_of_pack rfl (by rw [unpack_of_isNaN h]; rfl)

/-- An operation that either operand spoils. -/
theorem isNaN_of_spoils {f : UnpackedFloat → UnpackedFloat → UnpackedFloat}
    (hleft : ∀ u, f .notANumber u = .notANumber) (hright : ∀ u, f u .notANumber = .notANumber)
    (hz : z.toModel = .pack (f x.toModel.unpack y.toModel.unpack)) (h : x.isNaN ∨ y.isNaN) : z.isNaN := by
  refine isNaN_of_pack hz ?_
  rcases h with h | h
  · rw [unpack_of_isNaN h, hleft]
  · rw [unpack_of_isNaN h, hright]

theorem isNaN_add (h : x.isNaN ∨ y.isNaN) : (x + y).isNaN :=
  isNaN_of_spoils (fun _ => rfl) (fun u => by cases u <;> rfl) rfl h

theorem isNaN_sub (h : x.isNaN ∨ y.isNaN) : (x - y).isNaN :=
  isNaN_of_spoils (fun _ => rfl) (fun u => by cases u <;> rfl) rfl h

theorem isNaN_mul (h : x.isNaN ∨ y.isNaN) : (x * y).isNaN :=
  isNaN_of_spoils (fun _ => rfl) (fun u => by cases u <;> rfl) rfl h

theorem isNaN_div (h : x.isNaN ∨ y.isNaN) : (x / y).isNaN :=
  isNaN_of_spoils (fun _ => rfl) (fun u => by cases u <;> rfl) rfl h

theorem isNaN_remainder (h : x.isNaN ∨ y.isNaN) : (remainder x y).isNaN := by
  have hguard : (x.isNaN || y.isNaN || x.isInf || y == 0) = true := by
    rcases h with h | h
    · rw [h, Bool.true_or, Bool.true_or, Bool.true_or]
    · rw [h, Bool.or_true, Bool.true_or, Bool.true_or]
  rw [remainder, if_pos hguard]
  decide +kernel

end Costing.Number
