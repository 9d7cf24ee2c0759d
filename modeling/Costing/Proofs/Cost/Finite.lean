import Costing.Proofs.Cost.Decoded
import Costing.Proofs.Cost.Parts
import Costing.Proofs.Json.Native

/-!
# Cost — where amounts are finite

The numbers of a request are finite, but the amounts that are computed from them need not be: where a product or a sum
is out of the range of numbers, it is not finite.  Only results of logic are looked at and left out if they are not.

For each way in which an amount arises one definition says exactly when the amount is finite.

* `Stage.FiniteWithin`: the costs of a stage; those by logic always are, at flat prices the products must be in range.
* `CostRecord.FiniteFrom`: the costs of a whole; those of its parts must be, and the sums must be in range.
* `SalePrice.FiniteFrom`: a sale price; the base must be, and the markup must be in range.
* `OfferRequest.calculate_finite`: **all amounts of a result**, for a request that is read from a text.
* `OfferRequest.calculate_infinite`: there are such requests whose amounts are infinite, up to the sale price.
-/

namespace Costing

open Number (InRange toRat)

/-! ### Sums -/

/-- The sum of two amounts is in range, if both are there. -/
def SumInRange (a b : Option Float) : Prop :=
  ∀ x ∈ a, ∀ y ∈ b, InRange (toRat x + toRat y)

theorem finiteAmount_some {x : Float} : FiniteAmount (some x) ↔ x.isFinite = true :=
  ⟨fun h => h x rfl, fun h _ hx => Option.some.inj hx ▸ h⟩

theorem FiniteAmount.isFinite_getD {amount : Option Float} (h : FiniteAmount amount) {x : Float}
    (hx : x.isFinite = true) : (amount.getD x).isFinite = true := by
  cases amount with
  | none => exact hx
  | some y => exact h y rfl

theorem finiteAmount_addCosts (a b : Option Float) :
    FiniteAmount (addCosts a b) ↔ FiniteAmount a ∧ FiniteAmount b ∧ SumInRange a b := by
  cases a with
  | none => exact ⟨fun h => ⟨nofun, h, nofun⟩, fun h => h.2.1⟩
  | some x =>
      cases b with
      | none => exact ⟨fun h => ⟨h, nofun, fun _ _ => nofun⟩, fun h => h.1⟩
      | some y =>
          have hsum : SumInRange (some x) (some y) ↔ InRange (toRat x + toRat y) := by simp [SumInRange]
          rw [addCosts, finiteAmount_some, finiteAmount_some, finiteAmount_some, hsum]
          exact Number.isFinite_add x y

/-- Amounts that are added to a sum in order stay in range. -/
def SumsInRange (sum : Option Float) : List (Option Float) → Prop
  | [] => True
  | amount :: rest => SumInRange sum amount ∧ SumsInRange (addCosts sum amount) rest

theorem finiteAmount_foldl (amounts : List (Option Float)) (sum : Option Float) :
    FiniteAmount (amounts.foldl addCosts sum) ↔
      FiniteAmount sum ∧ (∀ amount ∈ amounts, FiniteAmount amount) ∧ SumsInRange sum amounts := by
  induction amounts generalizing sum with
  | nil => exact ⟨fun h => ⟨h, nofun, trivial⟩, fun h => h.1⟩
  | cons amount rest ih =>
      rw [List.foldl_cons, ih, finiteAmount_addCosts, List.forall_mem_cons, SumsInRange]
      tauto

/-! ### Wholes -/

namespace CostRecord

/-- Each amount of a whole is finite exactly if those of its parts are and their sums, in order, stay in range. -/
structure FiniteFrom (whole : CostRecord Float) (parts : List (CostRecord Float)) : Prop where
  operation : FiniteAmount whole.operationCost ↔
    (∀ part ∈ parts, FiniteAmount part.operationCost) ∧ SumsInRange Option.none (parts.map operationCost)
  material : FiniteAmount whole.materialCost ↔
    (∀ part ∈ parts, FiniteAmount part.materialCost) ∧ SumsInRange Option.none (parts.map materialCost)
  total : FiniteAmount whole.totalCost ↔
    (∀ part ∈ parts, FiniteAmount part.totalCost) ∧ SumsInRange Option.none (parts.map totalCost)

/-- An amount of a whole, which is added up from those of its parts. -/
theorem finiteAmount_aggregate {amount : CostRecord Float → Option Float} (hnone : amount none = Option.none)
    (hadd : ∀ whole part, amount (whole.addPart part) = addCosts (amount whole) (amount part))
    (parts : List (CostRecord Float)) :
    FiniteAmount (amount (aggregate parts)) ↔
      (∀ part ∈ parts, FiniteAmount (amount part)) ∧ SumsInRange Option.none (parts.map amount) := by
  have hsum : amount (aggregate parts) = (parts.map amount).foldl addCosts Option.none := by
    rw [aggregate, ← hnone, List.foldl_map, List.foldl_hom amount]
    exact fun whole part => (hadd whole part).symm
  rw [hsum, finiteAmount_foldl, List.forall_mem_map]
  exact and_iff_right nofun

theorem finiteFrom_aggregate (parts : List (CostRecord Float)) : (aggregate parts).FiniteFrom parts where
  operation := finiteAmount_aggregate rfl (fun _ _ => rfl) parts
  material := finiteAmount_aggregate rfl (fun _ _ => rfl) parts
  total := finiteAmount_aggregate rfl (fun _ _ => rfl) parts

end CostRecord

/-! ### Stages -/

namespace Stage

/-- A flat price at a quantity is in range. -/
def FlatInRange (price : Option Float) (quantity : Float) : Prop :=
  ∀ p ∈ price, InRange (toRat p * toRat quantity)

/-- The two costs of a stage are finite, unless they are flat prices that are out of range at its quantity, or else that
of the offer. -/
structure FlatWithin (s : Stage) (quantity : Float) (cost : CostRecord Float) : Prop where
  operation : FiniteAmount cost.operationCost ↔
    (cost.source = .fallbackApplied → FlatInRange s.operationPrice (s.quantity.getD quantity))
  material : FiniteAmount cost.materialCost ↔
    (cost.source = .fallbackApplied → FlatInRange s.materialPrice (s.quantity.getD quantity))

/-- And so is their total, if their sum is in range. -/
structure FiniteWithin (s : Stage) (quantity : Float) (cost : CostRecord Float) : Prop
    extends s.FlatWithin quantity cost where
  total : FiniteAmount cost.totalCost ↔
    FiniteAmount cost.operationCost ∧ FiniteAmount cost.materialCost ∧ SumInRange cost.operationCost cost.materialCost

theorem finiteAmount_requiredNumber? (outputs : Dict Value) (r : RequiredResult) :
    FiniteAmount (requiredNumber? outputs r) :=
  fun _ hx => (Option.filter_eq_some_iff.1 hx).2

theorem finiteAmount_flat {price : Option Float} {quantity : Float} (hprice : FiniteAmount price)
    (hquantity : quantity.isFinite = true) :
    FiniteAmount (price.map (· * quantity)) ↔ FlatInRange price quantity := by
  cases price with
  | none => exact iff_of_true nofun nofun
  | some p =>
      have hflat : FlatInRange (some p) quantity ↔ InRange (toRat p * toRat quantity) := by simp [FlatInRange]
      rw [Option.map_some, finiteAmount_some, Number.isFinite_mul, hflat]
      exact (and_iff_right (hprice p rfl)).trans (and_iff_right hquantity)

theorem flatWithin_baseCost {s : Stage} (hs : s.FiniteNumbers) {options : CostOptions}
    (hoffer : options.quantity.isFinite = true) (outputs : Dict Value) :
    s.FlatWithin options.quantity (s.baseCost options outputs) := by
  have hquantity := hs.quantity.isFinite_getD hoffer
  unfold baseCost
  split
  · unfold flatCost
    split
    · exact {
        operation := (finiteAmount_flat hs.operationPrice hquantity).trans (imp_iff_right rfl).symm
        material := (finiteAmount_flat hs.materialPrice hquantity).trans (imp_iff_right rfl).symm }
    · exact ⟨iff_of_true nofun nofun, iff_of_true nofun nofun⟩
  · exact {
      operation := iff_of_true (finiteAmount_requiredNumber? outputs .basePrice) nofun
      material := iff_of_true (finiteAmount_requiredNumber? outputs .purchasingPrice) nofun }

/-- **The costs of a stage.** -/
theorem finiteWithin_calculateWith [Platform] {s : Stage} (hs : s.FiniteNumbers) {options : CostOptions}
    (hoffer : options.quantity.isFinite = true) (w : Surroundings) (done : List (StageResult Float))
    (cache : Formula.Cache) :
    s.FiniteWithin options.quantity (s.calculateWith w options done cache).1.1.cost := by
  have hbase := fun outputs => flatWithin_baseCost hs hoffer outputs
  exact { toFlatWithin := ⟨(hbase _).operation, (hbase _).material⟩, total := finiteAmount_addCosts _ _ }

end Stage

/-! ### Sale prices -/

/-- A base with a markup is in range. -/
def PriceTier.MarkupInRange (t : PriceTier) (base : Float) : Prop :=
  match t.unit with
  | .percent => InRange (toRat base * toRat (1 + t.price / 100))
  | .currency => InRange (toRat base + toRat t.price)

theorem PriceTier.isFinite_applyMarkup {t : PriceTier} (ht : t.price.isFinite = true) (base : Float) :
    (t.applyMarkup base).isFinite = true ↔ base.isFinite = true ∧ t.MarkupInRange base := by
  unfold applyMarkup MarkupInRange
  cases t.unit with
  | percent =>
      -- the factor itself cannot be out of range, so only the product is asked about
      rw [Number.isFinite_mul]
      exact and_congr_right fun _ => and_iff_right (Number.isFinite_one_add_div_hundred ht)
  | currency =>
      rw [Number.isFinite_add]
      exact and_congr_right fun _ => and_iff_right ht

/-- What is read after some pairs are put is one of them, or was there before. -/
theorem Dict.mem_of_get?_foldl_put {β : Type} {l : List (String × β)} {d : Dict β} {key : String} {value : β}
    (h : (l.foldl (fun d (k, v) => d.put k v) d).get? key = some value) :
    d.get? key = some value ∨ (key, value) ∈ l := by
  induction l generalizing d with
  | nil => exact .inl h
  | cons e rest ih =>
      rcases ih h with hput | hmem
      · rw [get?_put] at hput
        split at hput
        · next hkey =>
            cases hput
            rw [← hkey]
            exact .inr List.mem_cons_self
        · exact .inl hput
      · exact .inr (List.mem_cons_of_mem _ hmem)

theorem Dict.mem_of_get?_ofList {β : Type} {l : List (String × β)} {key : String} {value : β}
    (h : (ofList l).get? key = some value) : (key, value) ∈ l :=
  (mem_of_get?_foldl_put h).resolve_left nofun

namespace SalePrice

/-- A sale price is finite exactly if its base is and the markup of its tier, if it has one, is in range. -/
def FiniteFrom (p : SalePrice) (type : PriceType) : Prop :=
  FiniteAmount p.price ↔
    FiniteAmount p.base ∧ ∀ b ∈ p.base, ∀ t ∈ p.tier.bind (type.tiers[·]?), t.MarkupInRange b

theorem finiteAmount_markup {tier : Option PriceTier} (ht : ∀ t ∈ tier, t.price.isFinite = true)
    (base : Option Float) :
    FiniteAmount (base.map fun base => (tier.map (·.applyMarkup base)).getD base) ↔
      FiniteAmount base ∧ ∀ b ∈ base, ∀ t ∈ tier, t.MarkupInRange b := by
  cases base with
  | none => exact iff_of_true nofun ⟨nofun, fun _ => nofun⟩
  | some base =>
      rw [Option.map_some, finiteAmount_some, finiteAmount_some]
      cases tier with
      | none => exact (and_iff_left fun _ _ => nofun).symm
      | some t =>
          have hmarkup : (∀ b ∈ some base, ∀ t' ∈ some t, t'.MarkupInRange b) ↔ t.MarkupInRange base := by simp
          rw [hmarkup]
          exact PriceTier.isFinite_applyMarkup (ht t rfl) base

theorem finiteFrom_of {type : PriceType} (htiers : ∀ t ∈ type.tiers, t.price.isFinite = true) (base : Option Float)
    (quantity : Float) : (SalePrice.of base quantity type).FiniteFrom type := by
  have htier : (SalePrice.of base quantity type).tier.bind (type.tiers[·]?) =
      (markupTier quantity type.tiers).bind fun selected => type.tiers[selected.1]? :=
    Option.bind_map ..
  rw [FiniteFrom, htier]
  refine finiteAmount_markup (fun t ht => ?_) base
  obtain ⟨_, -, hselected⟩ := Option.bind_eq_some_iff.1 ht
  exact htiers t (List.mem_of_getElem? hselected)

/-- The sale prices of a table are those of its price types. -/
theorem exists_of_get?_table {base : Option Float} {quantity : Float} {types : List PriceType} {id : String}
    {price : SalePrice} (h : (table base quantity types).get? id = some price) :
    ∃ type ∈ types, type.id = id ∧ SalePrice.of base quantity type = price := by
  obtain ⟨type, htype, heq⟩ := List.mem_map.1 (Dict.mem_of_get?_ofList h)
  cases heq
  exact ⟨type, htype, rfl, rfl⟩

end SalePrice

/-! ### Offers -/

namespace OfferRequest

/-- The amounts of a result are finite as far as products, sums and markups are in range: those of stages from flat
prices, those of items and of the offer from what they are put together from, and sale prices from their base. -/
structure FiniteWithin (r : OfferRequest) (result : OfferResult) : Prop where
  items : ∀ ref item, result.costs.result? ref = some item →
    ∃ known ancestors parts, r.product.item? ref = some known ∧ r.product.Under ancestors known.children ∧
      r.product.Adds result.costs.result? ancestors known.children parts ∧
      List.Forall₂ (fun stage done => stage.FiniteWithin r.options.quantity done.cost) known.stages item.stages ∧
      item.cost.FiniteFrom (parts ++ item.stages.map StageResult.cost)
  total : ∃ parts, r.product.Adds result.costs.result? [] r.product.topLevel parts ∧
    result.costs.total.FiniteFrom parts
  prices : ∀ id price, result.prices.get? id = some price →
    ∃ type ∈ r.priceTypes, type.id = id ∧ price.base = result.costs.total.totalCost ∧ price.FiniteFrom type

theorem FiniteNumbers.options_quantity {r : OfferRequest} (h : r.FiniteNumbers) :
    r.options.quantity.isFinite = true :=
  h.quantity.isFinite_getD (by decide +kernel)

/-- **A run keeps to what is in range.** -/
theorem FiniteNumbers.finiteWithin [Platform] {r : OfferRequest} (h : r.FiniteNumbers) {stopAfter : Option Nat}
    {cache : Formula.Cache} {result : OfferResult} (hcalc : r.calculate stopAfter cache = .ok result) :
    r.FiniteWithin result := by
  obtain ⟨hitems, parts, hparts, htotal, hprices⟩ := r.assembled_of_calculate hcalc
  constructor
  case items =>
    intro ref item hitem
    obtain ⟨known, ancestors, inside, hknown, hunder, hinside, rfl⟩ := hitems ref item hitem
    refine ⟨known, ancestors, inside, hknown, hunder, hinside, ?_, ?_⟩
    · rw [Item.result_stages]
      refine Calculation.forall₂_freshStages (fun stage hstage done => ?_) []
      have hnumbers := h.stages stage (Product.stages_subset_of_item? hknown hstage)
      exact Stage.finiteWithin_calculateWith hnumbers h.options_quantity _ _ _
    · rw [Item.result_stages, Item.result_cost]
      exact CostRecord.finiteFrom_aggregate _
  case total =>
    rw [htotal]
    exact ⟨parts, hparts, CostRecord.finiteFrom_aggregate parts⟩
  case prices =>
    intro id price hprice
    rw [hprices] at hprice
    obtain ⟨type, htype, hid, rfl⟩ := SalePrice.exists_of_get?_table hprice
    rw [htotal]
    exact ⟨type, htype, hid, rfl, SalePrice.finiteFrom_of (h.tiers type htype) _ _⟩

/-- **Where the amounts of a result are finite.**  A request that is read from a text, by a codec that reads finite
numbers only, is calculated, whatever formulas are read before, and whatever a run gives, stopped or not, is finite
exactly as far as the products, sums and markups that lead to it are in range. -/
theorem calculate_finite [Platform] (hfinite : Json.ReadsFinite) {text : String} {r : OfferRequest}
    (hread : OfferRequest.read? text = some r) (cache : Formula.Cache) :
    (∃ result, r.calculate none cache = .ok result) ∧
    ∀ stopAfter result, r.calculate stopAfter cache = .ok result → r.FiniteWithin result := by
  refine ⟨?_, fun stopAfter result hcalc => (finiteNumbers_of_read? hfinite hread).finiteWithin hcalc⟩
  obtain ⟨_, _, result, -, hcalc, -⟩ := r.exists_calculate cache
  exact ⟨result, hcalc⟩

open Native

/-- A sheet that is printed at a huge price in a huge quantity. -/
def hugeOrder : String :=
  "\x7b\"structure\": \x7b\"details\": [\x7b\"id\": \"sheet\", \"stages\": " ++
    "[\x7b\"id\": \"print\", \"quantity\": 1e300, \"operationPrice\": 1e300\x7d]\x7d]\x7d, " ++
    "\"priceTypes\": [\x7b\"id\": \"retail\"\x7d]\x7d"

/-- The sheet costs an infinite amount, which goes up to the sale price. -/
theorem hugeOrder_amounts :
    (OfferRequest.read? hugeOrder).any (fun r => (r.calculate none .empty).toOption.any fun result =>
      (result.costs.details.get? "sheet").any (fun item =>
        item.stages.any (fun stage => ¬ FiniteAmount stage.cost.operationCost) ∧
          ¬ FiniteAmount item.cost.totalCost) ∧
      ¬ FiniteAmount result.costs.total.totalCost ∧
      (result.prices.get? "retail").any fun price => ¬ FiniteAmount price.price) = true := by
  decide +kernel

theorem calculate_finite_hugeOrder :
    ∃ r result, OfferRequest.read? hugeOrder = some r ∧ r.calculate none .empty = .ok result ∧
      r.FiniteWithin result := by
  obtain ⟨r, hread, -⟩ := (Option.any_eq_true _ _).1 hugeOrder_amounts
  obtain ⟨⟨result, hcalc⟩, hfinite⟩ := calculate_finite Json.readsFinite_native hread .empty
  exact ⟨r, result, hread, hcalc, hfinite none result hcalc⟩

/-- **Amounts out of range are not left out.** -/
theorem calculate_infinite :
    ∃ r, OfferRequest.read? hugeOrder = some r ∧ ∃ result, r.calculate none .empty = .ok result ∧
      (∃ item, result.costs.details.get? "sheet" = some item ∧
        (∃ stage ∈ item.stages, ¬ FiniteAmount stage.cost.operationCost) ∧ ¬ FiniteAmount item.cost.totalCost) ∧
      ¬ FiniteAmount result.costs.total.totalCost ∧
      ∃ price, result.prices.get? "retail" = some price ∧ ¬ FiniteAmount price.price := by
  have hrun := hugeOrder_amounts
  simp only [Option.any_eq_true, List.any_eq_true, decide_eq_true_eq] at hrun
  obtain ⟨r, hread, result, hcalc, hamounts⟩ := hrun
  refine ⟨r, hread, result, ?_, hamounts⟩
  cases h : r.calculate none .empty with
  | error cancelled =>
      rw [h] at hcalc
      cases hcalc
  | ok other =>
      rw [h] at hcalc
      cases hcalc
      rfl

end OfferRequest

end Costing
