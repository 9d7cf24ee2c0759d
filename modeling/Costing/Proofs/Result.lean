/-!
# Results in steps

* `exists_of_bind_eq_ok`: a computation that succeeds does so step by step.
* `HoldsOr.bind`: a computation fails in one way only, if each of its steps does.
* `FailsOnly.bind`: a computation fails with errors of one kind only, if each of its steps does.
* `Ensures.bind`: so does one that also gives results of one kind, and goes on from these.
* `Agree.bind`: two computations give related results, or both fail, if their steps do.
-/

namespace Costing

variable {ε β γ δ : Type}

/-- A computation that succeeds does so step by step. -/
theorem exists_of_bind_eq_ok {x : Except ε β} {f : β → Except ε γ} {r : γ}
    (h : (x >>= f) = .ok r) : ∃ b, x = .ok b ∧ f b = .ok r := by
  cases x with
  | error e => cases h
  | ok b => exact ⟨b, rfl, h⟩

theorem exists_bind {x : Except ε β} {f : β → Except ε γ} (hx : ∃ b, x = .ok b)
    (hf : ∀ b, ∃ r, f b = .ok r) : ∃ r, (x >>= f) = .ok r := by
  obtain ⟨b, rfl⟩ := hx
  exact hf b

/-- A result that `P` holds of, or the error `e`. -/
def HoldsOr (e : ε) (P : β → Prop) : Except ε β → Prop
  | .ok b => P b
  | .error e' => e' = e

theorem HoldsOr.bind {e : ε} {P : β → Prop} {Q : γ → Prop} {x : Except ε β} {f : β → Except ε γ}
    (hx : HoldsOr e P x) (hf : ∀ b, P b → HoldsOr e Q (f b)) : HoldsOr e Q (x >>= f) := by
  cases x with
  | error e' => exact hx
  | ok b => exact hf b hx

/-- A result that must be `b` is `b`. -/
theorem HoldsOr.eq_ok_or {e : ε} {b : β} {x : Except ε β} (h : HoldsOr e (· = b) x) :
    x = .ok b ∨ x = .error e := by
  cases x with
  | error e' => exact .inr (congrArg Except.error h)
  | ok b' => exact .inl (congrArg Except.ok h)

/-- A result, or an error that `P` holds of. -/
def FailsOnly (P : ε → Prop) : Except ε β → Prop
  | .ok _ => True
  | .error e => P e

namespace FailsOnly

variable {P : ε → Prop} {x : Except ε β}

theorem of_forall (h : ∀ e, x = .error e → P e) : FailsOnly P x := by
  cases x with
  | error e => exact h e rfl
  | ok b => trivial

theorem of_error {e : ε} (h : FailsOnly P x) (hx : x = .error e) : P e := by
  subst hx
  exact h

theorem bind {f : β → Except ε γ} (hx : FailsOnly P x) (hf : ∀ b, x = .ok b → FailsOnly P (f b)) :
    FailsOnly P (x >>= f) := by
  cases x with
  | error e => exact hx
  | ok b => exact hf b rfl

theorem map (hx : FailsOnly P x) (f : β → γ) : FailsOnly P (x.map f) := by
  cases x with
  | error e => exact hx
  | ok b => trivial

theorem imp {Q : ε → Prop} (hx : FailsOnly P x) (h : ∀ e, P e → Q e) : FailsOnly Q x := by
  cases x with
  | error e => exact h e hx
  | ok b => trivial

end FailsOnly

/-- A result that `Q` holds of, or an error that `P` holds of. -/
def Ensures (P : ε → Prop) (Q : β → Prop) : Except ε β → Prop
  | .ok b => Q b
  | .error e => P e

namespace Ensures

variable {P : ε → Prop} {Q : β → Prop} {x : Except ε β}

theorem bind {R : γ → Prop} {f : β → Except ε γ} (hx : Ensures P Q x) (hf : ∀ b, Q b → Ensures P R (f b)) :
    Ensures P R (x >>= f) := by
  cases x with
  | error e => exact hx
  | ok b => exact hf b hx

theorem failsOnly (hx : Ensures P Q x) : FailsOnly P x := by
  cases x with
  | error e => exact hx
  | ok b => trivial

end Ensures

/-- Results that `R` relates, or an error each, whichever. -/
def Agree (R : β → γ → Prop) : Except ε β → Except ε γ → Prop
  | .ok b, .ok c => R b c
  | .error _, .error _ => True
  | _, _ => False

namespace Agree

variable {R : β → γ → Prop} {x : Except ε β} {y : Except ε γ}

theorem bind {β' γ' : Type} {S : β' → γ' → Prop} {f : β → Except ε β'} {g : γ → Except ε γ'} (hxy : Agree R x y)
    (hfg : ∀ b c, R b c → Agree S (f b) (g c)) : Agree S (x >>= f) (y >>= g) := by
  cases x with
  | error e => cases y with
    | error e' => trivial
    | ok c => exact hxy.elim
  | ok b => cases y with
    | error e' => exact hxy.elim
    | ok c => exact hfg b c hxy

theorem map {β' γ' : Type} {S : β' → γ' → Prop} {f : β → β'} {g : γ → γ'} (hxy : Agree R x y)
    (hfg : ∀ b c, R b c → S (f b) (g c)) : Agree S (x.map f) (y.map g) := by
  cases x with
  | error e => cases y with
    | error e' => trivial
    | ok c => exact hxy.elim
  | ok b => cases y with
    | error e' => exact hxy.elim
    | ok c => exact hfg b c hxy

/-- Results agree on what is read off them if it is the same, or there is nothing to read it off. -/
theorem iff_toOption {f : β → δ} {g : γ → δ} :
    Agree (fun b c => f b = g c) x y ↔ x.toOption.map f = y.toOption.map g := by
  cases x <;> cases y <;> simp [Agree, Except.toOption]

theorem toOption_eq {y : Except ε β} (h : Agree (· = ·) x y) : x.toOption = y.toOption := by
  cases x <;> cases y <;> simp_all [Agree, Except.toOption]

end Agree

end Costing
