import Costing.Formula.Builtin.Arguments
import Costing.Price.Tier

/-!
# Formula — Price function

The unit price of a quantity from the tiers in the data around an offer.
-/

namespace Costing.Formula.Builtin

/-- Tiers one by one, the first at place `i`. -/
def readTiers (i : Nat) : List Value → Except Fault (List PriceTier)
  | [] => .ok []
  | v :: rest =>
    match PriceTier.ofValue? v with
    | some t => (readTiers (i + 1) rest).map (t :: ·)
    | none => .error (.argument (.tierWithoutPrice i))

/-- The tiers of an array, or of the array that a record holds under `tiers`. -/
def tiersOf : Value → Except Fault (List PriceTier)
  | .null => .ok []
  | .array items => readTiers 0 items
  | .record fields =>
    match Entries.get? "tiers" fields with
    | some (.array items) => readTiers 0 items
    | _ => .error (.argument .noTiers)
  | v => .error (.argument (.tiersKind v.kindName))

/-- `getPrice(quantity, tiers, exact?)`; a quantity of zero is priced at zero whatever the tiers. -/
def applyGetPrice [Machine] (args : Arguments) : Outcome :=
  let quantity := (args.nth 0).toNumber
  if quantity.isNaN then .ok .null
  else if quantity == 0 then .ok (.number 0)
  else do
    let tiers ← tiersOf (args.nth 1)
    let mode := if (args.nth 2).truthy then PriceMode.exact else PriceMode.cheapest
    return .ofNumber? (unitPrice mode quantity tiers)

end Costing.Formula.Builtin
