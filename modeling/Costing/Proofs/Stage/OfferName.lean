import Costing.Native
import Costing.Proofs.Path.Layout
import Costing.Stage.Source

/-!
# Stage — the name of the offer in front of a path

Source paths lead into the offer, so its name may stand in front of a path or be left out.

* `Surroundings.withoutOffer_of_ne`: a path that does not start with the name is read as it stands.
* `Surroundings.resolve_offer`: **the name of the offer makes no difference**, whatever the path leads to.
-/

namespace Costing.Surroundings

/-- A path that starts otherwise than with the name of the offer is left as it is. -/
theorem withoutOffer_of_ne {path : Path} (h : path.head? ≠ some (.key "offer")) : withoutOffer path = path := by
  unfold withoutOffer
  split
  · exact absurd rfl h
  · rfl

/-- **The name of the offer in front of a path** makes no difference: with it the path leads to the same value, or to
nothing as before, or cannot be followed for the same reason.  The path has no blanks around it, as a name cannot
start with one, and does not start with the name already, which is taken off once only. -/
theorem resolve_offer [Json.Codec] (w : Surroundings) {text : String} {path : Path} (htrim : Text.trim text = text)
    (hparse : Path.parse text = .ok path) (hfirst : path.head? ≠ some (.key "offer")) :
    w.resolve ("offer." ++ text) = w.resolve text := by
  have hplain : ∀ c ∈ "offer".toList, Path.IsPlain c := by simp [Path.IsPlain]
  have hname : Path.parse ("offer" ++ "." ++ text) = .ok (Segment.ofName "offer".toList :: path) :=
    Path.parse_under (by simp) hplain (by simp [Text.isBlank]) htrim hparse
  have hkey : Segment.ofName "offer".toList = .key "offer" := by decide +kernel
  calc w.resolve ("offer." ++ text)
      = w.follow (withoutOffer (.key "offer" :: path)) := by
        unfold resolve
        rw [show "offer." ++ text = "offer" ++ "." ++ text from rfl, hname, hkey]
    _ = w.follow path := rfl
    _ = w.follow (withoutOffer path) := by rw [withoutOffer_of_ne hfirst]
    _ = w.resolve text := by
        unfold resolve
        rw [hparse]

open Native

/-- A result of the stage before, its name in quotes and in brackets. -/
theorem resolve_offer_quoted :
    let w : Surroundings :=
      { offer := .null, catalog := .empty, prior := [.record [("outputs", .record [("cut", .number 4)])]] }
    let text := "stages[0].outputs[ \"cut\" ]"
    let path : Path := [.key "stages", .index 0, .key "outputs", .key "cut"]
    Text.trim text = text ∧ Path.parse text = .ok path ∧ path.head? ≠ some (.key "offer") ∧
      w.resolve ("offer." ++ text) = w.resolve text := by
  intro w text path
  have htrim : Text.trim text = text := by decide +kernel
  have hparse : Path.parse text = .ok path := by decide +kernel
  have hfirst : path.head? ≠ some (.key "offer") := by decide
  exact ⟨htrim, hparse, hfirst, w.resolve_offer htrim hparse hfirst⟩

end Costing.Surroundings
