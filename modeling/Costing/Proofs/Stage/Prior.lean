import Costing.Proofs.Stage.Contents
import Costing.Proofs.Text.Trim

/-!
# Stage — which earlier stages a run can read

With `k` results before a stage, a path `stages[n].…` is refused as not computed from `n = k` on, and no
context holds an alias of such a stage.

* `Path.prefix_of_parse_stages`: the steps of a path that starts with `stages[n].`.
* `Surroundings.resolve_stages`: when such a path is refused as not computed.
* `Surroundings.contains_context`: the aliases in a context are those of the results before the stage.
* `Surroundings.exists_contains_iff`: an alias of stage `n` can be in the context of a stage with `k` results
  before it if `n` is below `k`, and not otherwise.
-/

namespace Costing

/-! ### Paths into earlier stages -/

theorem Segment.ofName_toDigits (n : Nat) :
    ofName (Nat.toDigits 10 n) =
      if n < indexBound then .index n else .key (String.ofList (Nat.toDigits 10 n)) := by
  have hread : Number.readNat? (Nat.toDigits 10 n) = some n :=
    StageAlias.readNat?_eq_some_iff.2
      ⟨Nat.toDigits_ne_nil, fun _ => Number.isDigit_of_mem_toDigits, Nat.ofDigitChars_ten_toDigits⟩
  rw [ofName, hread]

namespace Path

theorem subscriptName_digits {ds : List Char} (h : ∀ d ∈ ds, d.isDigit) : subscriptName ds = ds := by
  have hblank : ∀ d ∈ ds, Text.isBlank d = false := by
    intro d hd
    have hbounds := Formula.isDigit_bounds (h d hd)
    exact Formula.not_isBlank_of_bounds (by omega)
  have htrim : Text.trimChars ds = ds := Text.trimChars_eq_self_iff.2
    ⟨fun d hd => hblank d (List.mem_of_mem_head? hd), fun d hd => hblank d (List.mem_of_mem_getLast? hd)⟩
  have hunquoted {quote : Char} (hquote : quote.isDigit = false) : unquote? quote ds = none := by
    cases ds with
    | nil => rfl
    | cons d ds =>
        have hne : d ≠ quote := by
          rintro rfl
          exact Bool.noConfusion (hquote.symm.trans (h d List.mem_cons_self))
        simp [unquote?, hne]
  rw [subscriptName, htrim, hunquoted (by decide), hunquoted (by decide)]
  rfl

theorem Reading.prefix_finishName (r : Reading) : r.done.reverse <+: r.finishName.done.reverse := by
  unfold finishName
  split
  · exact List.prefix_refl _
  · rw [List.reverse_cons]
    exact List.prefix_append _ _

/-- The segments that are finished stay in front. -/
theorem prefix_of_readFrom {r : Reading} {cs : List Char} {path : Path} (h : readFrom r cs = .ok path) :
    r.done.reverse <+: path := by
  fun_induction readFrom r cs generalizing path with
  | case1 r => cases h; exact r.prefix_finishName
  | case4 r cs _ _ ih => exact r.prefix_finishName.trans (ih h)
  | case8 r cs =>
      next ih =>
        refine (r.prefix_finishName.trans ?_).trans (ih h)
        rw [List.reverse_cons]
        exact List.prefix_append _ _
  | case11 r c cs _ _ _ _ ih => exact ih h
  | case2 | case3 | case5 | case6 | case7 | case9 | case10 => cases h

/-- Other characters than points and brackets go to the name. -/
theorem readFrom_name {cs : List Char} (h : ∀ c ∈ cs, c ≠ '.' ∧ c ≠ '[' ∧ c ≠ ']') {r : Reading}
    (hr : r.closed = false) (rest : List Char) :
    readFrom r (cs ++ rest) = readFrom { r with name := cs.reverse ++ r.name } rest := by
  induction cs generalizing r with
  | nil => rfl
  | cons c cs ih =>
      obtain ⟨⟨hpoint, hopen, hclose⟩, hcs⟩ := List.forall_mem_cons.1 h
      rw [List.cons_append, readFrom, hr]
      · simpa using ih hcs (r := { r with name := c :: r.name, closed := false }) rfl
      all_goals assumption

/-- A subscript ends the name in front of it, if there is one, and adds what it names. -/
theorem readFrom_subscript {inner : List Char} (h : ∀ c ∈ inner, c ≠ ']') (hinner : subscriptName inner ≠ [])
    {r : Reading} (hr : r.name ≠ [] ∨ r.done ≠ []) (rest : List Char) :
    readFrom r ('[' :: (inner ++ ']' :: rest)) = readFrom
      { r.finishName with done := Segment.ofName (subscriptName inner) :: r.finishName.done, closed := true }
      rest := by
  have htake : (inner ++ ']' :: rest).takeWhile (· != ']') = inner :=
    Formula.takeWhile_append_of_ends (fun c hc => bne_iff_ne.2 (h c hc)) (by simp)
  have hdrop : (inner ++ ']' :: rest).dropWhile (· != ']') = ']' :: rest :=
    Formula.dropWhile_append_of_ends (fun c hc => bne_iff_ne.2 (h c hc)) (by simp)
  have hguard : ¬ (r.name.isEmpty && r.done.isEmpty) := by
    simpa [← not_and_or] using hr
  rw [readFrom, if_neg hguard]
  dsimp only
  split
  · next hnil => rw [hdrop] at hnil; cases hnil
  · next hcons =>
      rw [hdrop] at hcons
      cases hcons
      rw [htake, if_neg (by simpa using hinner)]

/-- **A path into an earlier stage** starts with the name of the stages and what its index names. -/
theorem prefix_of_parse_stages {text rest : String} {n : Nat}
    (htext : Text.trim text = "stages[" ++ toString n ++ "]." ++ rest) {path : Path}
    (h : parse text = .ok path) : [.key "stages", Segment.ofName (Nat.toDigits 10 n)] <+: path := by
  have hchars : Text.trimChars text.toList =
      "stages".toList ++ ('[' :: (Nat.toDigits 10 n ++ ']' :: '.' :: rest.toList)) := by
    have hlist := congrArg String.toList htext
    simpa [Text.trim] using hlist
  have hname : ∀ c ∈ "stages".toList, c ≠ '.' ∧ c ≠ '[' ∧ c ≠ ']' := by simp
  have hdigits : ∀ d ∈ Nat.toDigits 10 n, d.isDigit := fun _ => Number.isDigit_of_mem_toDigits
  have hinner : subscriptName (Nat.toDigits 10 n) = Nat.toDigits 10 n := subscriptName_digits hdigits
  have hclose : ∀ d ∈ Nat.toDigits 10 n, d ≠ ']' := by
    rintro d hd rfl
    exact absurd (hdigits _ hd) (by decide)
  rw [parse, hchars, if_neg (by simp), readFrom_name hname rfl,
    readFrom_subscript hclose (hinner.trans_ne Nat.toDigits_ne_nil) (.inl (by simp)), hinner] at h
  exact prefix_of_readFrom h

end Path

namespace Surroundings

variable {w : Surroundings}

/-- A path into an earlier stage is refused as not computed by the number of results before the stage. -/
theorem resolvePrior_eq_notComputed {n stage currentStage : Nat} {rest : Path} :
    w.resolvePrior (Segment.ofName (Nat.toDigits 10 n) :: rest) = .error (.notComputed stage currentStage) ↔
      n < Segment.indexBound ∧ w.prior.length ≤ n ∧ stage = n ∧ currentStage = w.prior.length := by
  rw [Segment.ofName_toDigits]
  split
  · next hbound =>
      rw [resolvePrior]
      cases hget : w.prior[n]? with
      | none =>
          have hlength := List.getElem?_eq_none_iff.1 hget
          simp [hbound, hlength, Surroundings.currentStage, eq_comm]
      | some record =>
          have hlength := (List.getElem?_eq_some_iff.1 hget).1
          simp [Nat.not_le.2 hlength]
  · next hbound => simp [resolvePrior, hbound]

/-- **A path into an earlier stage is refused as not computed** if it has the form of a path and the number
of the stage is an index that no result before the stage has. -/
theorem resolve_stages [Json.Codec] {text rest : String} {n : Nat}
    (htext : Text.trim text = "stages[" ++ toString n ++ "]." ++ rest) :
    (∃ stage currentStage, w.resolve text = .error (.notComputed stage currentStage)) ↔
      (∃ path, Path.parse text = .ok path) ∧ n < Segment.indexBound ∧ w.prior.length ≤ n := by
  rw [resolve]
  cases hparse : Path.parse text with
  | error fault => simp
  | ok path =>
      obtain ⟨rest, rfl⟩ := Path.prefix_of_parse_stages htext hparse
      have hfollow : w.follow (withoutOffer ([.key "stages", Segment.ofName (Nat.toDigits 10 n)] ++ rest)) =
          w.resolvePrior (Segment.ofName (Nat.toDigits 10 n) :: rest) := rfl
      simp only [hfollow, resolvePrior_eq_notComputed]
      simp

/-! ### Aliases in a context -/

/-- **The aliases in a context** that no wiring has are those of results before the stage. -/
theorem contains_context [Json.Codec] {inputs : List Wiring} {x : String} (h : x ∉ inputs.map fun u => Text.trim u.paramName) :
    (w.context inputs).contains x ↔
      ∃ p ∈ w.prior.zipIdx, ∃ field ∈ priorFields p.1, HasAlias p.2 x field := by
  rw [Dict.contains, get?_context, wired?_eq_none h, Option.none_or, aliases?]
  simp only [List.findSome?_isSome_iff, aliased?, Option.isSome_ite]

/-- The record of a stage with one result. -/
def recordOf (key : String) : Value :=
  .record [("outputs", .record [(key, .bool true)])]

/-- **An alias of a stage** can be in a context if the stage is among those before it, and not otherwise. -/
theorem exists_contains_iff [Json.Codec] {inputs : List Wiring} {n : Nat} {key : String}
    (h : StageAlias.render n key ∉ inputs.map fun u => Text.trim u.paramName) (k : Nat) :
    (∃ prior : List Value, prior.length = k ∧
      ({ w with prior }.context inputs).contains (StageAlias.render n key)) ↔ n < k := by
  constructor
  · rintro ⟨prior, rfl, hcontains⟩
    obtain ⟨⟨record, m⟩, hmem, field, -, -, hname⟩ := (contains_context h).1 hcontains
    obtain ⟨rfl, -⟩ := StageAlias.render_eq_render_iff.1 hname
    exact (List.mem_zipIdx' hmem).1
  · intro hlt
    -- results that all have the key, the one of the stage among them
    refine ⟨List.replicate k (recordOf key), List.length_replicate, (contains_context h).2 ?_⟩
    have hmem : (recordOf key, n) ∈ (List.replicate k (recordOf key)).zipIdx := by
      rw [List.mk_mem_zipIdx_iff_getElem?]
      simp [hlt]
    exact ⟨_, hmem, (key, .bool true), List.mem_append_left _ (List.mem_singleton_self _), rfl, rfl⟩

end Surroundings

end Costing
