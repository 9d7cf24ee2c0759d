import Costing.Catalog
import Costing.Product.Basic
import Costing.Value.Coercion
import Costing.Value.Lookup

/-!
# Stage — Source

Where the inputs of a stage come from.  A source path leads into the offer, except for some roots:
`offer` may stand in front of any path, `properties.<key>` reads the raw value of a property,
`stage_<id>.operationVariant` and `stage_<id>.materialVariant` read the variant chosen for a stage,
`stages[N]` an earlier stage and `currentStage` the place of the current one.
-/

namespace Costing

/-- What the sources of a stage lead into; `prior` holds the records of the stages before it. -/
structure Surroundings where
  offer : Value
  catalog : Catalog
  product : Option Product := none
  prior : List Value := []

/-- Why a source path cannot be followed. -/
inductive SourceFault where
  | path (fault : PathFault)
  | noName
  | forbidden
  | notComputed (stage currentStage : Nat)
  | unindexed
deriving Repr, DecidableEq

/-- The wording of a fault. -/
def SourceFault.reason : SourceFault → String
  | .path fault => fault.reason
  | .noName => "path must start with a name"
  | .forbidden => "forbidden source"
  | .notComputed stage currentStage =>
    Path.render [.key "stages", .index stage] ++ " is not computed before stage " ++
      toString currentStage
  | .unindexed => "stages must be indexed"

/-- The kind of variant that a name in a path reads. -/
def VariantKind.ofName? : String → Option VariantKind
  | "operationVariant" => some .operation
  | "materialVariant" => some .material
  | _ => none

/-- The variant of a kind that a stage has of its own. -/
def Stage.variantId? (s : Stage) : VariantKind → Option String
  | .operation => s.operationVariantId
  | .material => s.materialVariantId

/-- The variant of a kind that an options row chooses. -/
def VariantOption.variantId? (o : VariantOption) : VariantKind → Option String
  | .operation => o.operationVariantId
  | .material => o.materialVariantId

/-- The raw value of a property, else the id of its enumerated value, else the property. -/
def unwrapProperty (property : Value) : Value :=
  match property with
  | .record fields =>
    match (Entries.get? "value" fields).filter (!·.isNull), Entries.get? "enumId" fields with
    | some value, _ => value
    | none, some id => id
    | none, none => property
  | _ => property

/-- The texts that an options row can match a property by. -/
def propertyTexts [Json.Codec] : Value → List String
  | .record fields =>
    ((["value", "enumId"].filterMap (Entries.get? · fields)).filter (!·.isNull)).map Value.toText
  | v => [v.toText]

namespace Surroundings

variable [Json.Codec]

/-- The place of the current stage. -/
def currentStage (w : Surroundings) : Nat := w.prior.length

/-- The options row that the offer selects. -/
def selectedOption? (w : Surroundings) (m : OptionsMapping) : Option VariantOption := do
  let property ← w.offer.at? [.key "properties", .key m.property]
  m.entries.find? fun o => (propertyTexts property).contains o.when

/-- The variant of a kind for a stage: that of the selected options row, else the stage's own. -/
def stageVariantId? (w : Surroundings) (s : Stage) (kind : VariantKind) : Option String :=
  ((s.optionsMapping.bind w.selectedOption?).bind (·.variantId? kind)).or (s.variantId? kind)

/-- The record of the variant chosen for a stage. -/
def stageVariant? (w : Surroundings) (stageId : String) (kind : VariantKind) : Option Value := do
  let product ← w.product
  let stage ← product.stage? stageId
  let id ← w.stageVariantId? stage kind
  w.catalog.variant? kind id

/-- What a path below `stages` leads to. -/
def resolvePrior (w : Surroundings) : Path → Except SourceFault (Option Value)
  | [] => .ok (some (.array w.prior))
  | .key _ :: _ => .error .unindexed
  | .index n :: rest =>
    match w.prior[n]? with
    | none => .error (.notComputed n w.currentStage)
    | some record => .ok (record.at? rest)

/-- What a path into the offer leads to. -/
def resolveOffer (w : Surroundings) (path : Path) : Option Value :=
  match path with
  | [.key "properties", _] => (w.offer.at? path).map unwrapProperty
  | _ => w.offer.at? path

/-- The stage and the kind of variant that the first two names of a path mean, and the rest. -/
def variantPath? : Path → Option (String × VariantKind × Path)
  | .key root :: .key name :: rest => do
    let id ← "stage_".toList.isPrefixOf? root.toList
    let kind ← VariantKind.ofName? name
    return (String.ofList id, kind, rest)
  | _ => none

/-- A path without the name of the offer in front. -/
def withoutOffer : Path → Path
  | .key "offer" :: rest => rest
  | path => path

/-- What the steps of a path lead to. -/
def follow (w : Surroundings) (path : Path) : Except SourceFault (Option Value) :=
  match path with
  | .key root :: rest =>
    if forbiddenRoots.contains root then .error .forbidden
    else if root == "currentStage" && rest.isEmpty then
      .ok (some (.number (Float.ofNat w.currentStage)))
    else if root == "stages" then w.resolvePrior rest
    else
      match variantPath? path with
      | some (id, kind, rest) => .ok ((w.stageVariant? id kind).bind (·.at? rest))
      | none => .ok (w.resolveOffer path)
  | _ => .error .noName

/-- What a source path leads to; a path without a fault may lead to nothing. -/
def resolve (w : Surroundings) (text : String) : Except SourceFault (Option Value) :=
  match Path.parse text with
  | .error fault => .error (.path fault)
  | .ok path => w.follow (withoutOffer path)

end Surroundings

end Costing
