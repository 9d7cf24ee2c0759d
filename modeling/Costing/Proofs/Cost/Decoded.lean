import Costing.Cost.Offer
import Costing.Proofs.Json.Finite

/-!
# Cost — the numbers of a request

The numbers that costs and prices are computed from are finite in every request that a text holds.

* `Stage.FiniteNumbers`: so are the flat prices and the quantity of a stage.
* `OfferRequest.FiniteNumbers`: so are these of all stages, the quantity of the offer and the markups of tiers.
* `OfferRequest.finiteNumbers_of_read?`: **a text holds such requests only**, if the codec reads finite numbers only, from
  one lemma for each structure.
-/

namespace Costing

open Json (FiniteField Gives)

/-- A number that may be missing is finite if it is there. -/
def FiniteAmount (amount : Option Float) : Prop :=
  ∀ x ∈ amount, x.isFinite = true

instance : DecidablePred FiniteAmount := fun amount =>
  decidable_of_iff (amount.all Float.isFinite = true) (by cases amount <;> simp [FiniteAmount])

/-! ### Fields -/

section

variable {field : Option Json} (hfield : FiniteField field)

include hfield

theorem finiteAmount_of_optionalNumber? {amount : Option Float} (h : optionalNumber? field = some amount) :
    FiniteAmount amount :=
  Json.gives_number?.nullable?.optional? hfield h nofun

theorem forall_mem_of_optionalList? {α : Type} {item : Json → Option α} {P : α → Prop} (hitem : Gives item P)
    {l : List α} (h : optionalList? item field = some l) : ∀ a ∈ l, P a :=
  hitem.list?.optional? hfield h nofun

end

/-! ### Products -/

/-- The numbers of a stage that its flat cost is computed from are finite. -/
structure Stage.FiniteNumbers (s : Stage) : Prop where
  quantity : FiniteAmount s.quantity
  operationPrice : FiniteAmount s.operationPrice
  materialPrice : FiniteAmount s.materialPrice

theorem Stage.gives_finiteNumbers : Gives Stage.ofJson? Stage.FiniteNumbers := by
  refine Json.gives_of_fields fun fields s hfinite h => ?_
  split at h
  · iterate 6 obtain ⟨_, -, h⟩ := Option.bind_eq_some_iff.1 h
    obtain ⟨quantity, hquantity, h⟩ := Option.bind_eq_some_iff.1 h
    iterate 3 obtain ⟨_, -, h⟩ := Option.bind_eq_some_iff.1 h
    obtain ⟨operation, hoperation, h⟩ := Option.bind_eq_some_iff.1 h
    obtain ⟨material, hmaterial, h⟩ := Option.bind_eq_some_iff.1 h
    obtain ⟨_, -, h⟩ := Option.bind_eq_some_iff.1 h
    cases h
    exact {
      quantity := finiteAmount_of_optionalNumber? (hfinite _ (by simp)) hquantity
      operationPrice := finiteAmount_of_optionalNumber? (hfinite _ (by simp)) hoperation
      materialPrice := finiteAmount_of_optionalNumber? (hfinite _ (by simp)) hmaterial }
  · cases h

theorem Detail.gives_finiteNumbers : Gives Detail.ofJson? fun d => ∀ s ∈ d.stages, s.FiniteNumbers := by
  refine Json.gives_of_fields fun fields d hfinite h => ?_
  split at h
  · simp only [Option.bind_eq_bind, Option.bind_eq_some_iff] at h
    obtain ⟨_, -, _, -, stages, hstages, h⟩ := h
    cases h
    exact forall_mem_of_optionalList? (hfinite _ (by simp)) Stage.gives_finiteNumbers hstages
  · cases h

theorem Binding.gives_finiteNumbers : Gives Binding.ofJson? fun b => ∀ s ∈ b.stages, s.FiniteNumbers := by
  refine Json.gives_of_fields fun fields b hfinite h => ?_
  split at h
  · simp only [Option.bind_eq_bind, Option.bind_eq_some_iff] at h
    obtain ⟨_, -, _, -, stages, hstages, _, -, _, -, h⟩ := h
    cases h
    exact forall_mem_of_optionalList? (hfinite _ (by simp)) Stage.gives_finiteNumbers hstages
  · cases h

theorem Product.gives_finiteNumbers : Gives Product.ofJson? fun p => ∀ s ∈ p.stages, s.FiniteNumbers := by
  refine Json.gives_of_fields fun fields p hfinite h => ?_
  split at h
  · simp only [Option.bind_eq_bind, Option.bind_eq_some_iff] at h
    obtain ⟨details, hdetails, bindings, hbindings, _, -, h⟩ := h
    cases h
    refine List.forall_mem_append.2 ⟨List.forall_mem_flatMap.2 ?_, List.forall_mem_flatMap.2 ?_⟩
    · exact forall_mem_of_optionalList? (hfinite _ (by simp)) Detail.gives_finiteNumbers hdetails
    · exact forall_mem_of_optionalList? (hfinite _ (by simp)) Binding.gives_finiteNumbers hbindings
  · cases h

/-! ### Price types -/

theorem PriceTier.gives_finite : Gives PriceTier.ofJson? fun t => t.price.isFinite = true := by
  refine Json.gives_of_fields fun fields t hfinite h => ?_
  split at h
  · simp only [Option.bind_eq_bind, Option.bind_eq_some_iff] at h
    obtain ⟨_, -, _, -, price, hprice, _, -, h⟩ := h
    cases h
    exact Json.gives_number?.required? (hfinite _ (by simp)) hprice
  · cases h

theorem PriceType.gives_finite : Gives PriceType.ofJson? fun type => ∀ t ∈ type.tiers, t.price.isFinite = true := by
  refine Json.gives_of_fields fun fields type hfinite h => ?_
  split at h
  · simp only [Option.bind_eq_bind, Option.bind_eq_some_iff] at h
    obtain ⟨_, -, _, -, tiers, htiers, h⟩ := h
    cases h
    exact forall_mem_of_optionalList? (hfinite _ (by simp)) PriceTier.gives_finite htiers
  · cases h

/-! ### Requests -/

namespace OfferRequest

/-- The numbers of a request that costs and prices are computed from are finite. -/
structure FiniteNumbers (r : OfferRequest) : Prop where
  stages : ∀ s ∈ r.product.stages, s.FiniteNumbers
  quantity : FiniteAmount r.quantity
  tiers : ∀ type ∈ r.priceTypes, ∀ t ∈ type.tiers, t.price.isFinite = true

theorem gives_finiteNumbers [Json.Codec] : Gives OfferRequest.ofJson? FiniteNumbers := by
  refine Json.gives_of_fields fun fields r hfinite h => ?_
  split at h
  · simp only [Option.bind_eq_bind, Option.bind_eq_some_iff] at h
    obtain ⟨_, -, product, hproduct, _, -, types, htypes, quantity, hquantity, _, -, h⟩ := h
    cases h
    exact {
      stages := Product.gives_finiteNumbers.optional? (hfinite _ (by simp)) hproduct (List.forall_mem_nil _)
      quantity := finiteAmount_of_optionalNumber? (hfinite _ (by simp)) hquantity
      tiers := forall_mem_of_optionalList? (hfinite _ (by simp)) PriceType.gives_finite htypes }
  · cases h

/-- **A text holds requests of finite numbers only.** -/
theorem finiteNumbers_of_read? [Json.Codec] (hfinite : Json.ReadsFinite) {text : String} {r : OfferRequest}
    (h : OfferRequest.read? text = some r) : r.FiniteNumbers := by
  obtain ⟨j, hread, h⟩ := Option.bind_eq_some_iff.1 h
  exact gives_finiteNumbers j r (hfinite hread) h

end OfferRequest

end Costing
