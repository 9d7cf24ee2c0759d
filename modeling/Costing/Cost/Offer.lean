import Costing.Cost.Walk
import Costing.Price.Sale
import Costing.Product.Document

/-!
# Cost — Offer

The calculation of a whole offer: its product is costed from the stages up, and each price type marks
the total up to a sale price.
-/

namespace Costing

/-- All that the calculation of an offer needs. -/
structure OfferRequest where
  offer : Value := .null
  product : Product := {}
  catalog : Catalog := .empty
  priceTypes : List PriceType := []
  quantity : Option Float := none
  allowFallback : Option Bool := none

/-- The costs and the sale prices of an offer. -/
structure OfferResult where
  costs : Rollup Float
  prices : Dict SalePrice

namespace OfferRequest

/-- The request of a document. -/
def ofJson? [Json.Codec] (j : Json) : Option OfferRequest := do
  match ← j.fields? [["offer"], ["structure"], ["catalog"], ["priceTypes"], ["quantity"],
      ["allowFallback"]] with
  | [offer, product, catalog, priceTypes, quantity, allowFallback] =>
    return {
      offer := ← Json.optional? Value.ofJson? .null offer
      product := ← Json.optional? Product.ofJson? {} product
      catalog := ← Json.optional? Catalog.ofJson? .empty catalog
      priceTypes := ← optionalList? PriceType.ofJson? priceTypes
      quantity := ← optionalNumber? quantity
      allowFallback := ← Json.optional? (Json.nullable? Json.bool?) none allowFallback }
  | _ => none

/-- The request that a text holds. -/
def read? [Json.Codec] (text : String) : Option OfferRequest :=
  (Json.read? text).bind ofJson?

/-- How the offer is costed: at a quantity of one and with flat prices unless it says otherwise. -/
def options (r : OfferRequest) : CostOptions :=
  { quantity := r.quantity.getD 1, allowFallback := r.allowFallback.getD true }

/-- What the stages of the offer read. -/
def surroundings (r : OfferRequest) : Surroundings :=
  { offer := r.offer, catalog := r.catalog, product := some r.product }

/-- The calculation of the offer's costs. -/
def calculation [Platform] (r : OfferRequest) (stopAfter : Option Nat) : Calculation Float :=
  { product := r.product
    costStage := Stage.calculateWith r.surroundings r.options
    costStage_fst := fun s done cache => s.calculateWith_fst r.surroundings r.options done cache
    stopAfter }

/-- Calculates an offer unless it is stopped after some reports, with some formulas read before. -/
def calculate [Platform] (r : OfferRequest) (stopAfter : Option Nat := none)
    (cache : Formula.Cache := .empty) : Except Cancelled OfferResult := do
  let costs ← (r.calculation stopAfter).run cache
  return {
    costs
    prices := SalePrice.table costs.total.totalCost r.options.quantity r.priceTypes }

end OfferRequest

end Costing
