import Costing.Price.Tier

/-!
# Price — Sale

Sale prices: for each price type the cost of an offer with the markup of one of its tiers.
-/

namespace Costing

/-- A way of selling, with its markups by quantity. -/
structure PriceType where
  id : String
  name : Option String
  tiers : List PriceTier
deriving Repr

/-- The price type of a document. -/
def PriceType.ofJson? (j : Json) : Option PriceType := do
  match ← j.fields? [["id"], ["name"], ["tiers"]] with
  | [id, name, tiers] =>
    return {
      id := ← Json.required? Json.string? id
      name := ← Json.optional? (Json.nullable? Json.string?) none name
      tiers := ← Json.optional? (Json.list? PriceTier.ofJson?) [] tiers }
  | _ => none

/-- The price of an offer in one price type. -/
structure SalePrice where
  priceTypeId : String
  name : Option String
  /-- What the markup was applied to. -/
  base : Option Float
  price : Option Float
  /-- The place of the tier; none when the price type has no tiers. -/
  tier : Option Nat
  /-- No tier contained the quantity, so the first was taken. -/
  fallbackTier : Bool
deriving Repr

namespace SalePrice

/-- The sale price of a base at a quantity. -/
def of (base : Option Float) (quantity : Float) (type : PriceType) : SalePrice :=
  let selected := markupTier quantity type.tiers
  let tier := selected.bind fun (i, _) => type.tiers[i]?
  { priceTypeId := type.id
    name := type.name
    base
    price := base.map fun base => (tier.map (·.applyMarkup base)).getD base
    tier := selected.map Prod.fst
    fallbackTier := (selected.map Prod.snd).getD false }

/-- The sale prices of a base by price type; of two types with one id the later counts. -/
def table (base : Option Float) (quantity : Float) (types : List PriceType) : Dict SalePrice :=
  Dict.ofList (types.map fun type => (type.id, SalePrice.of base quantity type))

/-- The document of a sale price. -/
def toJson (p : SalePrice) : Json :=
  .object [
    ("priceTypeId", .string p.priceTypeId),
    ("name", .ofString? p.name),
    ("base", .ofNumber? p.base),
    ("price", .ofNumber? p.price),
    ("tierIndex", .ofNatural? p.tier),
    ("fallbackTier", .bool p.fallbackTier)]

end SalePrice

end Costing
