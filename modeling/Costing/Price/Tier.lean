import Costing.Json.Decode
import Costing.Number.Total
import Costing.Text.Search
import Costing.Value.Coercion

/-!
# Price — Tier

Bands of quantities, each with a price.  A quantity is priced by the one band that contains it, or as
cheaply as ordering up to the floor of a higher band allows.
-/

namespace Costing

/-- What the price of a tier means when it is a markup. -/
inductive MarkupUnit where
  | currency
  | percent
deriving Repr, DecidableEq

namespace MarkupUnit

/-- How a unit is written. -/
def name : MarkupUnit → String
  | currency => "currency"
  | percent => "percent"

/-- The unit that a document names. -/
def ofJson? (j : Json) : Option MarkupUnit :=
  match j.caseName? with
  | some "currency" => some currency
  | some "percent" => some percent
  | _ => none

end MarkupUnit

/-- A band of quantities with a price; without an upper end it has no bound. -/
structure PriceTier where
  quantityFrom : Float
  quantityTo : Option Float
  price : Float
  unit : MarkupUnit
deriving Repr

namespace PriceTier

/-- Whether the quantity is not above the band. -/
def coversOrExceeds (t : PriceTier) (quantity : Float) : Bool :=
  t.quantityTo.all (quantity ≤ ·)

/-- Whether the quantity lies in the band. -/
def contains (t : PriceTier) (quantity : Float) : Bool :=
  quantity ≥ t.quantityFrom && t.coversOrExceeds quantity

/-- The price marked up on a base. -/
def applyMarkup (t : PriceTier) (base : Float) : Float :=
  match t.unit with
  | .percent => base * (1 + t.price / 100)
  | .currency => base + t.price

/-- The tier of a document. -/
def ofJson? (j : Json) : Option PriceTier := do
  match ← j.fields? [["quantityFrom"], ["quantityTo"], ["price"], ["unit"]] with
  | [quantityFrom, quantityTo, price, unit] =>
    return {
      quantityFrom := ← Json.optional? Json.number? 0 quantityFrom
      quantityTo := ← Json.optional? (Json.nullable? Json.number?) none quantityTo
      price := ← Json.required? Json.number? price
      unit := ← Json.optional? MarkupUnit.ofJson? .currency unit }
  | _ => none

/-- The first of some names that a record has a field for. -/
def firstField? (names : List String) (fields : Entries Value) : Option Value :=
  names.findSome? (Entries.get? · fields)

/-- A bound of a record: missing or null, or a number. -/
def bound? (field : Option Value) : Option (Option Float) :=
  match field with
  | none | some .null => some none
  | some v => v.numeric?.map some

/-- Whether a record means percent: by its unit or, where that is no text, by its flag. -/
def isPercent (fields : Entries Value) : Bool :=
  match Entries.get? "unit" fields, Entries.get? "isPercent" fields with
  | some (.string unit), _ => Text.sameIgnoringCase unit "percent" || unit == "%"
  | _, some flag => flag.truthy
  | _, none => false

/-- The tier of a record in the data around an offer. -/
def ofValue? : Value → Option PriceTier
  | .record fields => do
    let price ← (← firstField? ["price", "value"] fields).numeric?
    let quantityFrom ← bound? (firstField? ["quantityFrom", "from"] fields)
    let quantityTo ← bound? (firstField? ["quantityTo", "to"] fields)
    return {
      quantityFrom := quantityFrom.getD 0
      quantityTo
      price
      unit := if isPercent fields then .percent else .currency }
  | _ => none

end PriceTier

/-- How a quantity is priced. -/
inductive PriceMode where
  /-- By the first band that contains the quantity. -/
  | exact
  /-- By the band with the lowest total among those at or above the quantity. -/
  | cheapest
deriving Repr, DecidableEq

/-- The outcome of pricing a quantity; `tier` is the place of the chosen tier. -/
structure Quote where
  tier : Nat
  unitPrice : Float
  billed : Float
  total : Float
deriving Repr

namespace Quote

/-- The quote of a tier, which bills at least its floor. -/
def ofTier (quantity : Float) (tier : Nat) (t : PriceTier) : Quote :=
  let billed := Number.larger quantity t.quantityFrom
  ⟨tier, t.price, billed, billed * t.price⟩

/-- The NaNs that the numbers of a quote are, as far as they are none. -/
structure NaNs where
  total : Number.NaN
  unitPrice : Number.NaN
  billed : Number.NaN

/-- What quotes are compared by, the NaNs of each tier's quote given: the total, then the unit price,
the billed quantity and the place of the tier. -/
def sortKey (nans : Nat → NaNs) (q : Quote) : List Int :=
  [(Number.Total.ofFloat (nans q.tier).total q.total).rank,
    (Number.Total.ofFloat (nans q.tier).unitPrice q.unitPrice).rank,
    (Number.Total.ofFloat (nans q.tier).billed q.billed).rank, (q.tier : Int)]

/-- Whether the first quote comes before the second. -/
def before (nans : Nat → NaNs) (a b : Quote) : Bool :=
  a.sortKey nans < b.sortKey nans

/-- The first of the least of some quotes. -/
def least (nans : Nat → NaNs) : List Quote → Option Quote
  | [] => none
  | q :: rest =>
    match least nans rest with
    | none => some q
    | some r => some (if r.before nans q then r else q)

end Quote

/-- What computes with numbers.  Which NaN an operation gives is up to the machine; one that is handed
in is passed on. -/
class Machine where
  /-- The NaNs of the quote that a quantity has by the tier at a place. -/
  nans : (quantity : Float) → (tiers : List PriceTier) → (tier : Nat) → Quote.NaNs

/-- The quotes of the tiers at or above the quantity, in order. -/
def usableQuotes (quantity : Float) (tiers : List PriceTier) : List Quote :=
  (tiers.zipIdx.filter fun (t, _) => t.coversOrExceeds quantity).map fun (t, i) =>
    Quote.ofTier quantity i t

/-- The quote of a quantity. -/
def selectTier [Machine] (mode : PriceMode) (quantity : Float) (tiers : List PriceTier) : Option Quote :=
  match mode with
  | .exact =>
    (tiers.zipIdx.find? fun (t, _) => t.contains quantity).map fun (t, i) =>
      ⟨i, t.price, quantity, quantity * t.price⟩
  | .cheapest => Quote.least (Machine.nans quantity tiers) (usableQuotes quantity tiers)

/-- The unit price of a quantity; nothing is priced at zero. -/
def unitPrice [Machine] (mode : PriceMode) (quantity : Float) (tiers : List PriceTier) : Option Float :=
  if quantity == 0 then some 0 else (selectTier mode quantity tiers).map Quote.unitPrice

/-- The place of the tier whose markup counts, and whether none contains the quantity, so that it is
the first. -/
def markupTier (quantity : Float) (tiers : List PriceTier) : Option (Nat × Bool) :=
  match tiers.findIdx? (·.contains quantity) with
  | some i => some (i, false)
  | none => if tiers.isEmpty then none else some (0, true)

end Costing
