import Costing.Cost.Stage
import Costing.Native

/-!
# Stage — what mappings leave

Mappings are followed in order, and each puts at most one result.  A result is stored under a name only, which a
required result and a custom one can share.

* `get?_mapOutput`, `get?_mapOutput_of_ne`: what a mapping leaves under the name of its result, and that it leaves every
  other name alone.
* `mapOutputs_get?_congr`: what stands under a name in the end depends on the mappings of that name only.
* `Stage.calculateWith_withOutputs`: where some result is mapped, the operation cost depends on the mappings to
  `basePrice` only, and the material cost on those to `purchasingPrice`.  Custom results of other names do not matter.
* `Stage.operationCost_customBasePrice`: a custom result named `basePrice` does.
-/

namespace Costing

open Costing.Formula (Cache Context)

namespace OutputMapping

/-- The name of the result that a mapping is for, if its key is one. -/
def resultName? (m : OutputMapping) : Option String :=
  (ResultKey.parse m.key).toOption.map ResultKey.name

/-- What the source of a mapping holds in a context, if it is there. -/
def taken? (ctx : Context) (m : OutputMapping) : Option Value :=
  (ctx.get? (Text.trim m.sourceRef)).filter Value.isPresent

/-- Whether a mapping is for a result of the name of a required one. -/
def isNamed (r : RequiredResult) (m : OutputMapping) : Bool :=
  m.resultName? == some r.name

/-- Whether a mapping is for a custom result that has not the name of a price. -/
def isAside (m : OutputMapping) : Bool :=
  match ResultKey.parse m.key with
  | .ok (.custom slug _) => slug != RequiredResult.basePrice.name && slug != RequiredResult.purchasingPrice.name
  | _ => false

theorem resultName?_of_parse {m : OutputMapping} {key : ResultKey} (h : ResultKey.parse m.key = .ok key) :
    m.resultName? = some key.name := by
  rw [resultName?, h]
  rfl

theorem exists_key_of_resultName? {m : OutputMapping} {name : String} (h : m.resultName? = some name) :
    ∃ key, ResultKey.parse m.key = .ok key ∧ key.name = name := by
  unfold resultName? at h
  cases hkey : ResultKey.parse m.key with
  | error fault => rw [hkey] at h; cases h
  | ok key => rw [hkey] at h; exact ⟨key, rfl, Option.some.inj h⟩

/-- What is aside is for no price. -/
theorem isAside_eq_false {m : OutputMapping} {r : RequiredResult} (hr : r = .basePrice ∨ r = .purchasingPrice)
    (h : m.isNamed r = true) : m.isAside = false := by
  obtain ⟨key, hkey, hname⟩ := exists_key_of_resultName? (eq_of_beq h)
  unfold isAside
  rw [hkey]
  cases key with
  | required => rfl
  | custom slug title =>
      have hslug : slug = r.name := hname
      rcases hr with rfl | rfl <;> simp [hslug]

end OutputMapping

/-! ### One mapping, and all -/

section Mappings

variable {ctx : Context} {outputs : Dict Value} {m : OutputMapping} {ms : List OutputMapping} {name : String}

/-- What a mapping leaves under the name of its result. -/
theorem get?_mapOutput {key : ResultKey} (h : ResultKey.parse m.key = .ok key) :
    (mapOutput ctx outputs m).get? key.name = (m.taken? ctx).or (outputs.get? key.name) := by
  unfold mapOutput OutputMapping.taken?
  rw [h]
  cases (ctx.get? (Text.trim m.sourceRef)).filter Value.isPresent with
  | none => rfl
  | some v => exact Dict.get?_put_self _ _ _

/-- **A mapping leaves every other name alone.** -/
theorem get?_mapOutput_of_ne (h : m.resultName? ≠ some name) :
    (mapOutput ctx outputs m).get? name = outputs.get? name := by
  unfold mapOutput
  split
  · next key v hkey _ =>
      have hne : key.name ≠ name := fun hname => h (hname ▸ OutputMapping.resultName?_of_parse hkey)
      exact Dict.get?_put_of_ne _ hne _
  · rfl

theorem get?_foldl_mapOutput_of_ne (h : ∀ m ∈ ms, m.resultName? ≠ some name) :
    (ms.foldl (mapOutput ctx) outputs).get? name = outputs.get? name := by
  induction ms generalizing outputs with
  | nil => rfl
  | cons m rest ih =>
      obtain ⟨hm, hrest⟩ := List.forall_mem_cons.1 h
      exact (ih hrest).trans (get?_mapOutput_of_ne hm)

/-- A mapping leaves alike what was alike. -/
theorem get?_mapOutput_congr {outputs' : Dict Value} (h : outputs.get? name = outputs'.get? name) :
    (mapOutput ctx outputs m).get? name = (mapOutput ctx outputs' m).get? name := by
  by_cases hname : m.resultName? = some name
  · obtain ⟨key, hkey, rfl⟩ := OutputMapping.exists_key_of_resultName? hname
    rw [get?_mapOutput hkey, get?_mapOutput hkey, h]
  · rw [get?_mapOutput_of_ne hname, get?_mapOutput_of_ne hname, h]

/-- Of mappings, those to a name decide what stands under it. -/
theorem get?_mapOutputs_filter (ctx : Context) (ms : List OutputMapping) (name : String) :
    (mapOutputs ctx ms).get? name = (mapOutputs ctx (ms.filter (·.resultName? == some name))).get? name := by
  have hfold (outputs outputs' : Dict Value) (h : outputs.get? name = outputs'.get? name) :
      (ms.foldl (mapOutput ctx) outputs).get? name =
        ((ms.filter (·.resultName? == some name)).foldl (mapOutput ctx) outputs').get? name := by
    induction ms generalizing outputs outputs' with
    | nil => exact h
    | cons m rest ih =>
        by_cases hname : m.resultName? = some name
        · rw [List.filter_cons, if_pos (beq_iff_eq.2 hname)]
          exact ih _ _ (get?_mapOutput_congr h)
        · rw [List.filter_cons, if_neg (mt beq_iff_eq.1 hname)]
          exact ih _ _ ((get?_mapOutput_of_ne hname).trans h)
  exact hfold .empty .empty rfl

/-- What stands under a name depends on the mappings of that name only. -/
theorem mapOutputs_get?_congr {ms' : List OutputMapping} (ctx : Context)
    (h : ms.filter (·.resultName? == some name) = ms'.filter (·.resultName? == some name)) :
    (mapOutputs ctx ms).get? name = (mapOutputs ctx ms').get? name := by
  rw [get?_mapOutputs_filter ctx ms, get?_mapOutputs_filter ctx ms', h]

/-- Something stands under a name only if there is a mapping to it. -/
theorem exists_mapping_of_get?_mapOutputs {v : Value} (h : (mapOutputs ctx ms).get? name = some v) :
    ∃ m ∈ ms, m.resultName? = some name := by
  refine Decidable.byContradiction fun hnone => ?_
  have hne (m : OutputMapping) (hm : m ∈ ms) : m.resultName? ≠ some name := fun hname => hnone ⟨m, hm, hname⟩
  rw [mapOutputs, get?_foldl_mapOutput_of_ne hne] at h
  cases h

/-- **Where no two mappings are for one name**, each leaves there what its source holds. -/
theorem get?_mapOutputs_of_distinct (hdistinct : ms.Pairwise fun m n => m.resultName? ≠ n.resultName?) (hm : m ∈ ms)
    {key : ResultKey} (hkey : ResultKey.parse m.key = .ok key) :
    (mapOutputs ctx ms).get? key.name = m.taken? ctx := by
  obtain ⟨before, after, rfl⟩ := List.append_of_mem hm
  obtain ⟨-, hafter, hbefore⟩ := List.pairwise_append.1 hdistinct
  have hname := OutputMapping.resultName?_of_parse hkey
  have hrest (n : OutputMapping) (hn : n ∈ after) : n.resultName? ≠ some key.name :=
    hname ▸ ((List.pairwise_cons.1 hafter).1 n hn).symm
  have hdone (n : OutputMapping) (hn : n ∈ before) : n.resultName? ≠ some key.name :=
    hname ▸ hbefore n hn m List.mem_cons_self
  rw [mapOutputs, List.foldl_append, List.foldl_cons, get?_foldl_mapOutput_of_ne hrest, get?_mapOutput hkey,
    get?_foldl_mapOutput_of_ne hdone, Dict.get?_empty, Option.or_none]

end Mappings

/-! ### Prices from results -/

namespace Stage

/-- The same stage with other mappings. -/
def withOutputs (s : Stage) (outputs : List OutputMapping) : Stage :=
  { s with outputs }

/-- The context that the variables of a stage leave, after some results. -/
def finalContext [Platform] (w : Surroundings) (s : Stage) (done : List (StageResult Float)) : Context :=
  (s.computeVariables { w with prior := done.map StageResult.toValue } .empty).1.context

section Mapped

variable {w : Surroundings} {options : CostOptions} {s : Stage} {done : List (StageResult Float)} {cache : Cache}

/-- The outputs of a result are what the mappings take from the final context. -/
theorem outputs_calculateWith [Platform] :
    (s.calculateWith w options done cache).1.1.cost.outputs = mapOutputs (s.finalContext w done) s.outputs := by
  rw [calculateWith_fst]
  rfl

/-- Where some result is mapped, a cost is the number of the result of its name. -/
theorem cost_calculateWith_of_mapped [Platform] (h : (s.calculateWith w options done cache).1.1.cost.outputs.size ≠ 0) :
    let cost := (s.calculateWith w options done cache).1.1.cost
    cost.operationCost = requiredNumber? (mapOutputs (s.finalContext w done) s.outputs) .basePrice ∧
    cost.materialCost = requiredNumber? (mapOutputs (s.finalContext w done) s.outputs) .purchasingPrice := by
  rw [outputs_calculateWith] at h
  have hbase : s.baseCost options (mapOutputs (s.finalContext w done) s.outputs) =
      logicCost (mapOutputs (s.finalContext w done) s.outputs) := if_neg h
  rw [calculateWith_fst]
  exact ⟨congrArg CostRecord.operationCost hbase, congrArg CostRecord.materialCost hbase⟩

/-- The number of a required result depends on the mappings of its name only. -/
theorem requiredNumber?_mapOutputs_congr {ms ms' : List OutputMapping} {r : RequiredResult} (ctx : Context)
    (h : ms.filter (·.isNamed r) = ms'.filter (·.isNamed r)) :
    requiredNumber? (mapOutputs ctx ms) r = requiredNumber? (mapOutputs ctx ms') r := by
  unfold requiredNumber?
  rw [mapOutputs_get?_congr ctx h]

/-- **Costs depend on the mappings to prices only.**  Of two lists of mappings that both map some result, let the
mappings to results named `basePrice` be the same, in the same order: then the operation cost is the same.  So is the
material cost if those to results named `purchasingPrice` are.  Neither depends on custom results of other names,
however many there are and wherever they stand in the lists. -/
theorem calculateWith_withOutputs [Platform] (w : Surroundings) (options : CostOptions) (s : Stage)
    (done : List (StageResult Float)) (cache cache' : Cache) (ms ms' : List OutputMapping)
    (h : ((s.withOutputs ms).calculateWith w options done cache).1.1.cost.outputs.size ≠ 0)
    (h' : ((s.withOutputs ms').calculateWith w options done cache').1.1.cost.outputs.size ≠ 0) :
    let cost := ((s.withOutputs ms).calculateWith w options done cache).1.1.cost
    let cost' := ((s.withOutputs ms').calculateWith w options done cache').1.1.cost
    (ms.filter (·.isNamed .basePrice) = ms'.filter (·.isNamed .basePrice) →
      cost.operationCost = cost'.operationCost) ∧
    (ms.filter (·.isNamed .purchasingPrice) = ms'.filter (·.isNamed .purchasingPrice) →
      cost.materialCost = cost'.materialCost) ∧
    (ms.filter (!·.isAside) = ms'.filter (!·.isAside) →
      cost.operationCost = cost'.operationCost ∧ cost.materialCost = cost'.materialCost) := by
  intro cost cost'
  obtain ⟨hoperation, hmaterial⟩ := cost_calculateWith_of_mapped h
  obtain ⟨hoperation', hmaterial'⟩ := cost_calculateWith_of_mapped h'
  have hbase (hsame : ms.filter (·.isNamed .basePrice) = ms'.filter (·.isNamed .basePrice)) :
      cost.operationCost = cost'.operationCost :=
    hoperation.trans ((requiredNumber?_mapOutputs_congr (s.finalContext w done) hsame).trans hoperation'.symm)
  have hpurchase (hsame : ms.filter (·.isNamed .purchasingPrice) = ms'.filter (·.isNamed .purchasingPrice)) :
      cost.materialCost = cost'.materialCost :=
    hmaterial.trans ((requiredNumber?_mapOutputs_congr (s.finalContext w done) hsame).trans hmaterial'.symm)
  refine ⟨hbase, hpurchase, fun hsame => ?_⟩
  -- the mappings to a price are among those that are not aside
  have hnamed {r : RequiredResult} (hr : r = .basePrice ∨ r = .purchasingPrice) (l : List OutputMapping) :
      (l.filter (!·.isAside)).filter (·.isNamed r) = l.filter (·.isNamed r) := by
    rw [List.filter_filter]
    refine List.filter_congr fun m _ => ?_
    cases hm : m.isNamed r with
    | false => rfl
    | true => rw [OutputMapping.isAside_eq_false hr hm]; rfl
  constructor
  · exact hbase (by rw [← hnamed (.inl rfl) ms, hsame, hnamed (.inl rfl)])
  · exact hpurchase (by rw [← hnamed (.inr rfl) ms, hsame, hnamed (.inr rfl)])

end Mapped

/-- A calculator that knows a price. -/
def priced : Calculator where
  id := "priced"
  name := none
  params := []
  logic := ⟨[⟨"price", none, some (.number 2)⟩, ⟨"width", none, some (.number 3)⟩]⟩

/-- A stage with that calculator. -/
def pricedStage : Stage where
  id := "print"
  calculatorId := some "priced"

/-- Surroundings with that calculator. -/
def pricedOffer : Surroundings where
  offer := .null
  catalog := ⟨[priced], .empty, .empty⟩

open Native

theorem calculateWith_withOutputs_reordered :
    let before : List OutputMapping := [⟨"basePrice", "price"⟩, ⟨"note|Note", "width"⟩]
    let after : List OutputMapping := [⟨"wide|Wide", "width"⟩, ⟨"note|Other", "price"⟩, ⟨"basePrice", "price"⟩]
    let cost (ms : List OutputMapping) :=
      ((pricedStage.withOutputs ms).calculateWith pricedOffer {} [] .empty).1.1.cost
    (cost before).outputs.size ≠ 0 ∧ (cost after).outputs.size ≠ 0 ∧
    (cost before).operationCost = (cost after).operationCost ∧
    (cost before).materialCost = (cost after).materialCost := by
  intro before after cost
  have hbefore : (cost before).outputs.size ≠ 0 := by decide +kernel
  have hafter : (cost after).outputs.size ≠ 0 := by decide +kernel
  have hsame : before.filter (!·.isAside) = after.filter (!·.isAside) := by decide +kernel
  exact ⟨hbefore, hafter,
    (calculateWith_withOutputs pricedOffer {} pricedStage [] .empty .empty before after hbefore hafter).2.2 hsame⟩

/-- **A custom result of the name of a price sets the cost**: with it the operation cost is two, and without it there is
none, though some result is mapped in either case. -/
theorem operationCost_customBasePrice :
    let cost (ms : List OutputMapping) :=
      ((pricedStage.withOutputs ms).calculateWith pricedOffer {} [] .empty).1.1.cost
    let without := cost [⟨"width", "width"⟩]
    let given := cost [⟨"width", "width"⟩, ⟨"basePrice|Base", "price"⟩]
    ResultKey.parse "basePrice|Base" = .ok (.custom "basePrice" "Base") ∧
    without.outputs.size = 1 ∧ without.operationCost = none ∧
    given.outputs.size = 2 ∧ given.operationCost = some 2 := by
  intro cost without given
  exact ⟨rfl, by decide +kernel⟩

end Stage

end Costing
