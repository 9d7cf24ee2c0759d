import Costing.Cost.Stage
import Costing.Native
import Mathlib.Data.List.TakeWhile

/-!
# Stage — a formula that gives nothing

What a broken formula does to its stage is what a missing value does.  `Formula.GivesNothing ctx text` lists the ways
in which a formula gives nothing: its text is no formula, its evaluation fails, or what it evaluates to is null or a
number that is not finite.

* `Formula.evaluateText_of_givesNothing`: whichever it is, no value comes out.
* `Variables.foldl_compute_recount`: failures are counted and never read, so variables that differ in the count only
  stay so whatever is computed next.
* `Stage.calculateWith_withoutFormula`: a stage with such a formula gives the result that it gives with the formula
  `null` in its place.  The formula counts as at most one failure more.
-/

namespace Costing

open Costing.Formula (Cache Context Expr Fault Numbered evaluate evaluateText parseFormula tryEvaluate)

/-! ### Ways of giving nothing -/

namespace Formula

/-- A formula gives no value in a context. -/
inductive GivesNothing [Platform] (ctx : Context) (text : String) : Prop where
  | unreadable {fault : Fault} : parseFormula text = .error fault → GivesNothing ctx text
  | fails {e : Expr} {fault : Fault} :
      parseFormula text = .ok e → evaluate ctx e = .error fault → GivesNothing ctx text
  | null {e : Expr} : parseFormula text = .ok e → evaluate ctx e = .ok .null → GivesNothing ctx text
  | notFinite {e : Expr} {x : Float} : parseFormula text = .ok e → evaluate ctx e = .ok (.number x) →
      x.isFinite = false → GivesNothing ctx text

theorem evaluateText_of_parse [Platform] {ctx : Context} {text : String} {e : Expr} (h : parseFormula text = .ok e) :
    evaluateText ctx text = tryEvaluate ctx e := by
  rw [evaluateText, h]
  rfl

/-- **No value comes out.** -/
theorem evaluateText_of_givesNothing [Platform] {ctx : Context} {text : String} (h : GivesNothing ctx text) :
    evaluateText ctx text = .ok none ∨ ∃ fault, evaluateText ctx text = .error fault := by
  cases h with
  | @unreadable fault hparse =>
      refine .inr ⟨fault, ?_⟩
      rw [evaluateText, hparse]
      rfl
  | @fails e fault hparse he =>
      refine .inr ⟨fault, ?_⟩
      rw [evaluateText_of_parse hparse, tryEvaluate, he]
      rfl
  | null hparse he =>
      refine .inl ?_
      rw [evaluateText_of_parse hparse, tryEvaluate, he]
      rfl
  | notFinite hparse he hx =>
      refine .inl ?_
      rw [evaluateText_of_parse hparse, tryEvaluate, he]
      exact congrArg Except.ok (if_neg (Bool.eq_false_iff.1 ((Value.isPresent_number _).trans hx)))

end Formula

/-! ### Failures are never read -/

namespace Variables

/-- The same variables with some more failures. -/
def recount (vars : Variables) (more : Nat) : Variables :=
  { vars with failures := vars.failures + more }

theorem compute_recount [Platform] {s s' : Variables × Cache} {more : Nat} (h : s.1 = s'.1.recount more) (v : Variable) :
    (compute s v).1 = (compute s' v).1.recount more := by
  have hvalue : (valueOf s.1.context s.2 v.body).1 = (valueOf s'.1.context s'.2 v.body).1 := by
    rw [h]
    exact valueOf_fst _ _ _ _
  show s.1.add (Text.trim v.name) (valueOf s.1.context s.2 v.body).1 =
    (s'.1.add (Text.trim v.name) (valueOf s'.1.context s'.2 v.body).1).recount more
  rw [hvalue, h]
  unfold add recount
  dsimp only
  rw [Nat.add_right_comm]

/-- **Variables that differ in the count of failures** stay so whatever is computed next. -/
theorem foldl_compute_recount [Platform] (l : List Variable) {s s' : Variables × Cache} {more : Nat}
    (h : s.1 = s'.1.recount more) : (l.foldl compute s).1 = (l.foldl compute s').1.recount more := by
  induction l generalizing s s' with
  | nil => exact h
  | cons v rest ih => exact ih (compute_recount h v)

end Variables

/-! ### Another formula -/

/-- The same variable with another formula. -/
def Variable.withFormula (v : Variable) (text : String) : Variable :=
  { v with formula := some text }

/-- The same calculator with another formula for the variable at a place. -/
def Calculator.withFormula (c : Calculator) (i : Nat) (text : String) : Calculator :=
  { c with logic := ⟨c.logic.vars.modify i (·.withFormula text)⟩ }

/-- The same catalog with another formula for the variable at a place of a calculator. -/
def Catalog.withFormula (c : Catalog) (id : String) (i : Nat) (text : String) : Catalog :=
  { c with calculators := c.calculators.map fun k => if k.id == id then k.withFormula i text else k }

/-- The same surroundings with another formula for the variable at a place of a calculator. -/
def Surroundings.withFormula (w : Surroundings) (id : String) (i : Nat) (text : String) : Surroundings :=
  { w with catalog := w.catalog.withFormula id i text }

theorem Catalog.calculator?_withFormula {catalog : Catalog} {id : String} {c : Calculator}
    (h : catalog.calculator? id = some c) (i : Nat) (text : String) :
    (catalog.withFormula id i text).calculator? id = some (c.withFormula i text) := by
  unfold calculator? at h ⊢
  have hid : (c.id == id) = true := by simpa using List.find?_some h
  have hsame : (·.id == id) ∘ (fun k : Calculator => if k.id == id then k.withFormula i text else k) =
      (·.id == id) := by
    funext k
    dsimp only [Function.comp_apply]
    split <;> rfl
  rw [withFormula, List.find?_map, hsame, h]
  exact congrArg some (if_pos hid)

/-- Sources lead to the same: of a catalog they read the variants only. -/
theorem Surroundings.context_withFormula [Json.Codec] (w : Surroundings) (id : String) (i : Nat) (text : String)
    (inputs : List Wiring) : (w.withFormula id i text).context inputs = w.context inputs :=
  rfl

/-! ### The formula `null` -/

theorem Formula.evaluateText_null [Platform] (ctx : Context) : evaluateText ctx "null" = .ok none := by
  have hscan : Token.scan "null" = .ok [⟨.identifier, "null", 0⟩] := by decide +kernel
  have hparse : parseFormula "null" = .ok (.literal .null) := by
    rw [parseFormula, hscan]
    with_unfolding_all rfl
  rw [evaluateText_of_parse hparse]
  rfl

namespace Variable

variable {v : Variable} {text : String}

/-- A formula that is not blank counts, also beside a value. -/
theorem body_withFormula (h : Text.isAllBlank text = false) (v : Variable) :
    (v.withFormula text).body = .formula text := by
  unfold body withFormula
  cases v.value <;> simp [h]

/-- A variable with a formula is given by it, or by nothing, or by the value beside a blank one. -/
theorem body_of_formula (h : v.formula = some text) (hvalue : ∀ x, v.body ≠ .value x) :
    v.body = .formula text ∨ v.body = .empty := by
  unfold body at hvalue ⊢
  rw [h] at hvalue ⊢
  cases hv : v.value with
  | none => by_cases hblank : Text.isAllBlank text <;> simp [hblank]
  | some x =>
      rw [hv] at hvalue
      by_cases hblank : Text.isAllBlank text
      · simp [hblank] at hvalue
      · simp [hblank]

end Variable

namespace Variables

/-- What gives nothing leaves its variable null, as the formula `null` does. -/
theorem exists_recount_of_givesNothing [Platform] {s s' : Variables × Cache} {v : Variable} {text : String}
    (hsame : s.1 = s'.1) (hformula : v.formula = some text) (hvalue : ∀ x, v.body ≠ .value x)
    (h : Formula.GivesNothing s.1.context text) :
    ∃ more ≤ 1, (compute s v).1 = (compute s' (v.withFormula "null")).1.recount more := by
  have hnull : (valueOf s'.1.context s'.2 (v.withFormula "null").body).1 = (.null, false) := by
    rw [Variable.body_withFormula (by decide) v, valueOf_formula, Formula.evaluateText_null]
    rfl
  have hgiven : ∃ failed, (valueOf s.1.context s.2 v.body).1 = (.null, failed) := by
    rcases Variable.body_of_formula hformula hvalue with hbody | hbody
    · rw [hbody, valueOf_formula]
      rcases Formula.evaluateText_of_givesNothing h with hnone | ⟨fault, hfault⟩
      · exact ⟨false, by rw [hnone]; rfl⟩
      · exact ⟨true, by rw [hfault]; rfl⟩
    · exact ⟨false, by rw [hbody]; rfl⟩
  obtain ⟨failed, hfailed⟩ := hgiven
  refine ⟨failed.toNat, Bool.toNat_le failed, ?_⟩
  show s.1.add (Text.trim v.name) (valueOf s.1.context s.2 v.body).1 =
    (s'.1.add (Text.trim v.name) (valueOf s'.1.context s'.2 (v.withFormula "null").body).1).recount failed.toNat
  rw [hnull, hfailed, hsame]
  rfl

/-- One of some variables gives nothing. -/
theorem exists_recount_foldl [Platform] {s s' : Variables × Cache} {vars : List Variable} {i : Nat} {v : Variable}
    {text : String} (hsame : s.1 = s'.1) (hv : vars[i]? = some v) (hformula : v.formula = some text)
    (hvalue : ∀ x, v.body ≠ .value x)
    (h : Formula.GivesNothing ((vars.take i).foldl compute s).1.context text) :
    ∃ more ≤ 1, (vars.foldl compute s).1 =
      ((vars.modify i (·.withFormula "null")).foldl compute s').1.recount more := by
  obtain ⟨hi, hget⟩ := List.getElem?_eq_some_iff.1 hv
  have hbefore := foldl_compute_fst (vars.take i) hsame
  obtain ⟨more, hmore, hstep⟩ := exists_recount_of_givesNothing hbefore hformula hvalue h
  refine ⟨more, hmore, ?_⟩
  have hsplit : vars.foldl compute s =
      (vars.drop (i + 1)).foldl compute (compute ((vars.take i).foldl compute s) v) := by
    rw [← List.foldl_cons, ← List.foldl_append, ← hget, List.getElem_cons_drop, List.take_append_drop]
  rw [hsplit, List.modify_eq_take_cons_drop hi, hget, List.foldl_append, List.foldl_cons]
  exact foldl_compute_recount _ hstep

end Variables

namespace Stage

/-- The variables of a stage whose calculator is known. -/
theorem computeVariables_of_calculator [Platform] {s : Stage} {w : Surroundings} {c : Calculator}
    (h : s.calculatorId.bind w.catalog.calculator? = some c) (cache : Cache) :
    s.computeVariables w cache = Variables.ofLogic (w.context s.inputs) c.logic cache := by
  unfold computeVariables
  rw [h]

/-- The context that the variable at a place of some logic is computed in, for a stage after some others. -/
def contextAt [Platform] (w : Surroundings) (s : Stage) (done : List (StageResult Float)) (logic : Logic) (i : Nat) :
    Context :=
  (Variables.ofLogic ({ w with prior := done.map StageResult.toValue }.context s.inputs)
    ⟨logic.vars.take i⟩ .empty).1.context

/-- **A broken formula is a missing value.**  Wherever a formula of a stage's calculator gives nothing, the stage gives
the same result as with the formula `null` in its place, whatever formulas were read before either run.  Only the count
of failures may differ, by the formula itself.  (A blank formula beside a value is none: the value is taken.) -/
theorem calculateWith_withoutFormula [Platform] {w : Surroundings} {s : Stage} {done : List (StageResult Float)} {id : String}
    {c : Calculator} {i : Nat} {v : Variable} {text : String} (hid : s.calculatorId = some id)
    (hc : w.catalog.calculator? id = some c) (hv : c.logic.vars[i]? = some v) (hformula : v.formula = some text)
    (hvalue : ∀ x, v.body ≠ .value x) (h : Formula.GivesNothing (s.contextAt w done c.logic i) text)
    (options : CostOptions) (cache cache' : Cache) :
    let given := (s.calculateWith w options done cache).1
    let without := (s.calculateWith (w.withFormula id i "null") options done cache').1
    given.1 = without.1 ∧ ∃ more ≤ 1, given.2 = without.2 + more := by
  let around : Surroundings := { w with prior := done.map StageResult.toValue }
  let start : Variables := ⟨around.context s.inputs, .empty, 0⟩
  have hcontext : ((c.logic.vars.take i).foldl Variables.compute (start, cache)).1.context =
      s.contextAt w done c.logic i :=
    congrArg Variables.context (Variables.foldl_compute_fst _ rfl)
  have hstart : (start, cache).1 = (start, cache').1 := rfl
  obtain ⟨more, hmore, hvars⟩ := Variables.exists_recount_foldl hstart hv hformula hvalue (hcontext ▸ h)
  have hknown : s.calculatorId.bind around.catalog.calculator? = some c := by
    rw [hid]
    exact hc
  have hknown' : s.calculatorId.bind (around.withFormula id i "null").catalog.calculator? =
      some (c.withFormula i "null") := by
    rw [hid]
    exact Catalog.calculator?_withFormula hc i "null"
  have hgiven : s.computeVariables around cache = c.logic.vars.foldl Variables.compute (start, cache) :=
    computeVariables_of_calculator hknown cache
  have hwithout : s.computeVariables (around.withFormula id i "null") cache' =
      (c.logic.vars.modify i (·.withFormula "null")).foldl Variables.compute (start, cache') := by
    rw [computeVariables_of_calculator hknown' cache', Surroundings.context_withFormula]
    rfl
  have hsame : (s.computeVariables around cache).1 =
      (s.computeVariables (around.withFormula id i "null") cache').1.recount more := by
    rw [hgiven, hwithout, hvars]
  refine ⟨?_, more, hmore, ?_⟩
  · have hresult := congrArg (s.result options done.length) hsame
    exact hresult
  · exact congrArg Variables.failures hsame

/-- A calculator whose second variable calls a function that there is none of; the third reads it, and the last takes
its name. -/
def broken : Calculator where
  id := "broken"
  name := none
  params := []
  logic := ⟨[⟨"area", none, some (.number 4)⟩, ⟨"rate", some "rates(area)", none⟩,
    ⟨"cost", some "area * rate", none⟩, ⟨"rate", some "area + 1", none⟩]⟩

/-- A stage with that calculator. -/
def brokenStage : Stage where
  id := "cut"
  calculatorId := some "broken"
  outputs := [⟨"basePrice", "cost"⟩, ⟨"rate|Rate", "rate"⟩]

open Native

theorem calculateWith_withoutFormula_broken :
    let w : Surroundings := ⟨.null, ⟨[broken], .empty, .empty⟩, none, []⟩
    brokenStage.calculatorId = some "broken" ∧ w.catalog.calculator? "broken" = some broken ∧
    broken.logic.vars[1]? = some ⟨"rate", some "rates(area)", none⟩ ∧
    (∀ x, Variable.body ⟨"rate", some "rates(area)", none⟩ ≠ .value x) ∧
    Formula.GivesNothing (brokenStage.contextAt w [] broken.logic 1) "rates(area)" ∧
    (brokenStage.calculateWith w {} [] .empty).1.1 =
      (brokenStage.calculateWith (w.withFormula "broken" 1 "null") {} [] .empty).1.1 := by
  intro w
  have hscan : Formula.Token.scan "rates(area)" =
      .ok [⟨.identifier, "rates", 0⟩, ⟨.paren, "(", 5⟩, ⟨.identifier, "area", 6⟩, ⟨.paren, ")", 10⟩] := by
    decide +kernel
  have hparse : parseFormula "rates(area)" = .ok (.call "rates" [.identifier "area"]) := by
    rw [parseFormula, hscan]
    with_unfolding_all rfl
  have hfails (ctx : Context) : evaluate ctx (.call "rates" [.identifier "area"]) =
      .error (.unknownFunction "rates") := by
    have hfind : Formula.Builtin.find? "rates" = none := by decide +kernel
    rw [evaluate, hfind]
  have hnothing : Formula.GivesNothing (brokenStage.contextAt w [] broken.logic 1) "rates(area)" :=
    .fails hparse (hfails _)
  have hvalue (x : Value) : Variable.body ⟨"rate", some "rates(area)", none⟩ ≠ .value x := by
    have hbody : Variable.body ⟨"rate", some "rates(area)", none⟩ = .formula "rates(area)" :=
      Variable.body_withFormula (by decide) ⟨"rate", none, none⟩
    rw [hbody]
    nofun
  exact ⟨rfl, rfl, rfl, hvalue, hnothing,
    (calculateWith_withoutFormula rfl rfl rfl rfl hvalue hnothing {} .empty .empty).1⟩

end Stage

end Costing
