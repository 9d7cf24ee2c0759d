import Costing.Cost.Offer
import Costing.Native

/-!
# Stage — what is never read of an offer

Nothing that is calculated depends on what an offer holds under a forbidden root.

`SameSources o o'` says that two offers are the same under every root that may be read.  An offer enters
a calculation in two ways only: a source path leads into it from a root that is checked, after the name
of the offer is taken off (`follow_withOffer`), and the options mapping of a stage reads a property
(`selectedOption?_withOffer`).  So offers with the same sources resolve every path alike, however it is
spelt, and give the same contexts, stages and results.

`selectedOffers_unread` says so of two records that agree on every other key.
-/

namespace Costing

/-- Two offers hold the same under every root that may be read. -/
def SameSources (o o' : Value) : Prop :=
  ∀ root, root ∉ forbiddenRoots → o.child? (.key root) = o'.child? (.key root)

theorem SameSources.at?_eq {o o' : Value} (h : SameSources o o') {root : String}
    (hr : root ∉ forbiddenRoots) (rest : Path) :
    o.at? (.key root :: rest) = o'.at? (.key root :: rest) := by
  rw [Value.at?, Value.at?, h root hr]

/-- Records that agree on every key that is not forbidden. -/
theorem sameSources_record {fields fields' : Entries Value}
    (h : ∀ key, key ∉ forbiddenRoots → fields.get? key = fields'.get? key) :
    SameSources (.record fields) (.record fields') :=
  h

namespace Surroundings

/-- The same surroundings of another offer. -/
def withOffer (w : Surroundings) (offer : Value) : Surroundings :=
  { w with offer }

variable {o o' : Value}

/-! ### The two ways into an offer -/

/-- The options row that a property selects. -/
theorem selectedOption?_withOffer [Json.Codec] (h : SameSources o o') (w : Surroundings) (m : OptionsMapping) :
    (w.withOffer o).selectedOption? m = (w.withOffer o').selectedOption? m := by
  have hproperty : o.at? [.key "properties", .key m.property] =
      o'.at? [.key "properties", .key m.property] := h.at?_eq (by decide) _
  unfold selectedOption?
  rw [withOffer, withOffer, hproperty]

theorem stageVariant?_withOffer [Json.Codec] (h : SameSources o o') (w : Surroundings) (id : String)
    (kind : VariantKind) :
    (w.withOffer o).stageVariant? id kind = (w.withOffer o').stageVariant? id kind := by
  have hoption : (w.withOffer o).selectedOption? = (w.withOffer o').selectedOption? :=
    funext (selectedOption?_withOffer h w)
  unfold stageVariant? stageVariantId?
  rw [hoption]
  rfl

/-- A path into an offer from a root that may be read. -/
theorem resolveOffer_withOffer (h : SameSources o o') (w : Surroundings) {root : String}
    (hr : root ∉ forbiddenRoots) (rest : Path) :
    (w.withOffer o).resolveOffer (.key root :: rest) =
      (w.withOffer o').resolveOffer (.key root :: rest) := by
  have hat : (w.withOffer o).offer.at? (.key root :: rest) =
      (w.withOffer o').offer.at? (.key root :: rest) := h.at?_eq hr rest
  unfold resolveOffer
  rw [hat]

/-- The steps of a path: a forbidden root is refused whatever the offer, and every other one leads to the
same. -/
theorem follow_withOffer [Json.Codec] (h : SameSources o o') (w : Surroundings) (path : Path) :
    (w.withOffer o).follow path = (w.withOffer o').follow path := by
  match path with
  | [] => rfl
  | .index _ :: _ => rfl
  | .key root :: rest =>
      unfold follow
      dsimp only
      split
      · rfl
      · next hr =>
          have hroot : root ∉ forbiddenRoots := fun hm => hr (List.contains_iff_mem.2 hm)
          rw [resolveOffer_withOffer h w hroot rest]
          simp only [stageVariant?_withOffer h w]
          rfl

/-! ### What is made of it -/

/-- **Every source path** leads to the same. -/
theorem resolve_withOffer [Json.Codec] (h : SameSources o o') (w : Surroundings) (text : String) :
    (w.withOffer o).resolve text = (w.withOffer o').resolve text := by
  unfold resolve
  cases Path.parse text with
  | error fault => rfl
  | ok path => exact follow_withOffer h w _

/-- **Every wiring** gives the same context. -/
theorem context_withOffer [Json.Codec] (h : SameSources o o') (w : Surroundings) (inputs : List Wiring) :
    (w.withOffer o).context inputs = (w.withOffer o').context inputs := by
  have hadd : (w.withOffer o).addInput = (w.withOffer o').addInput := by
    funext ctx wiring
    unfold addInput
    rw [resolve_withOffer h w]
  unfold context
  rw [hadd]
  rfl

end Surroundings

/-- A stage gives the same result. -/
theorem Stage.calculateWith_withOffer [Platform] {o o' : Value} (h : SameSources o o') (w : Surroundings)
    (options : CostOptions) : calculateWith (w.withOffer o) options = calculateWith (w.withOffer o') options := by
  funext s done cache
  have hcontext := Surroundings.context_withOffer h { w with prior := done.map StageResult.toValue } s.inputs
  have hvars : s.computeVariables { w.withOffer o with prior := done.map StageResult.toValue } cache =
      s.computeVariables { w.withOffer o' with prior := done.map StageResult.toValue } cache := by
    unfold computeVariables
    have hcatalog offer : (w.withOffer offer).catalog = w.catalog := rfl
    simp only [hcatalog]
    cases s.calculatorId.bind w.catalog.calculator? with
    | none => exact congrArg (fun ctx => ((⟨ctx, .empty, 0⟩ : Variables), cache)) hcontext
    | some calculator => exact congrArg (fun ctx => Variables.ofLogic ctx calculator.logic cache) hcontext
  unfold calculateWith
  rw [hvars]

namespace OfferRequest

/-- The same request for another offer. -/
def withOffer (r : OfferRequest) (offer : Value) : OfferRequest :=
  { r with offer }

/-- **Every calculation** gives the same. -/
theorem calculate_withOffer [Platform] {o o' : Value} (h : SameSources o o') (r : OfferRequest)
    (stopAfter : Option Nat) (cache : Formula.Cache) :
    (r.withOffer o).calculate stopAfter cache = (r.withOffer o').calculate stopAfter cache := by
  have hstage : Stage.calculateWith (r.withOffer o).surroundings (r.withOffer o).options =
      Stage.calculateWith (r.withOffer o').surroundings (r.withOffer o').options :=
    Stage.calculateWith_withOffer h r.surroundings r.options
  have hcalc : (r.withOffer o).calculation stopAfter = (r.withOffer o').calculation stopAfter := by
    unfold calculation
    simp only [hstage]
    rfl
  unfold calculate
  rw [hcalc]
  rfl

/-- **What is under `selectedOffers` is never read.**  Two offers that agree on every other key resolve
every path text alike, build the same context of every wiring, and are calculated alike, whatever the
product, the catalog, the earlier stages, the price types and the options are. -/
theorem selectedOffers_unread [Platform] {fields fields' : Entries Value}
    (h : ∀ key, key ≠ "selectedOffers" → fields.get? key = fields'.get? key) :
    (∀ (w : Surroundings) (text : String),
      (w.withOffer (.record fields)).resolve text = (w.withOffer (.record fields')).resolve text) ∧
    (∀ (w : Surroundings) (inputs : List Wiring),
      (w.withOffer (.record fields)).context inputs = (w.withOffer (.record fields')).context inputs) ∧
    ∀ (r : OfferRequest) (stopAfter : Option Nat) (cache : Formula.Cache),
      (r.withOffer (.record fields)).calculate stopAfter cache =
        (r.withOffer (.record fields')).calculate stopAfter cache := by
  have hsame : SameSources (.record fields) (.record fields') :=
    sameSources_record fun key hkey => h key fun e => hkey (e ▸ List.mem_singleton_self _)
  exact ⟨fun w text => w.resolve_withOffer hsame text, fun w inputs => w.context_withOffer hsame inputs,
    fun r stopAfter cache => r.calculate_withOffer hsame stopAfter cache⟩

/-- An offer with a quote under `selectedOffers`. -/
def quoted (price : Float) : Entries Value :=
  [("properties", .record [("width", .number 3)]),
    ("selectedOffers", .array [.record [("price", .number price)]])]

/-- A stage whose base price is wired to the quote. -/
def pricedByQuote : OfferRequest where
  product :=
    { details := [{ id := "sheet", stages := [{
        id := "print"
        inputs := [⟨"width", "properties.width"⟩, ⟨"quote", "offer[selectedOffers][0].price"⟩]
        outputs := [⟨"basePrice", "quote"⟩] }] }] }

open Native

theorem selectedOffers_unread_quoted :
    (∀ key, key ≠ "selectedOffers" → (quoted 1).get? key = (quoted 2).get? key) ∧
    (pricedByQuote.withOffer (.record (quoted 1))).calculate none .empty =
      (pricedByQuote.withOffer (.record (quoted 2))).calculate none .empty := by
  have h : ∀ key, key ≠ "selectedOffers" → (quoted 1).get? key = (quoted 2).get? key := fun key hkey => by
    simp only [quoted, Entries.get?, if_neg (Ne.symm hkey)]
  exact ⟨h, (selectedOffers_unread h).2.2 pricedByQuote none .empty⟩

end OfferRequest

end Costing
