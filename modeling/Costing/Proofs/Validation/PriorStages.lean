import Costing.Native
import Costing.Proofs.Stage.Prior
import Costing.Proofs.Validation.StageNames

/-!
# Validation — stages that are checked and stages that are read

A check lets through what reads a stage up to the current one; a run can read the stages before the current
one only.  So the two agree on every stage but the current one: its results are let through by the check, and
a run refuses the path to them and has no alias of them.

* `priorStages_lines`: where a check and a run draw their lines, for paths and for aliases.
* `currentStage_disagrees`: at the current stage they differ.  They also differ where a path reads a stage to come
  further on or is no path at all, and where the number of a stage is no index.
-/

namespace Costing.Validation

open Costing.Formula (Expr parseFormula)

/-- A run that refuses a path because it leads into a stage that is not computed. -/
def RefusedByRun [Json.Codec] (w : Surroundings) (text : String) : Prop :=
  ∃ stage currentStage, w.resolve text = .error (.notComputed stage currentStage)

/-- **Where a check and a run draw their lines.**  Let a run have as many results before a stage as the place
of the stage that its logic is checked for.

A wiring whose path is `stages[n].…` raises no error about a stage to come if `n` is not past the current stage
and nor is any index of the stages in the rest; a run refuses the path as not computed if it has the form of a
path and `n` is an index from the current stage on.

A formula that reads an alias of stage `n`, which is the name of no input and of no variable, raises no error
about a stage to come if `n` is not past the current stage; a context can hold the alias if `n` is before it. -/
theorem priorStages_lines [Json.Codec] {r : Request} {w : Surroundings} (hprior : w.prior.length = r.currentStage)
    (hcurrent : r.currentStage < Segment.indexBound) (n : Nat) :
    (∀ u ∈ r.inputs, (∀ u' ∈ r.inputs, wiredName u' = wiredName u → u' = u) →
      ∀ rest, Text.trim u.sourcePath = "stages[" ++ toString n ++ "]." ++ rest →
        (r.AdmitsInput (wiredName u) ↔
          n ≤ r.currentStage ∧ ∀ use ∈ indexUses rest, ¬ use.IsFuture r.currentStage) ∧
        (RefusedByRun w u.sourcePath ↔
          (∃ path, Path.parse u.sourcePath = .ok path) ∧ n < Segment.indexBound ∧ r.currentStage ≤ n)) ∧
    (n < Segment.indexBound → ∀ (i : Nat) (v : Variable) (formula : String) (e : Expr) (key : String),
      r.logic.vars[i]? = some v → v.body = .formula formula → parseFormula formula = .ok e →
      key ≠ "" → StageAlias.render n key ∈ e.identifiers → ¬ r.IsInput (StageAlias.render n key) →
      StageAlias.render n key ∉ r.names →
        (r.AdmitsName (StageAlias.render n key) ↔ n ≤ r.currentStage) ∧
        ((∃ prior : List Value, prior.length = r.currentStage ∧
          ({ w with prior }.context r.inputs).contains (StageAlias.render n key)) ↔ n < r.currentStage)) := by
  constructor
  · intro u hu honly rest htext
    refine ⟨?_, hprior ▸ Surroundings.resolve_stages htext⟩
    have hpath : Text.trim u.sourcePath ≠ "" := by
      rw [htext]
      exact fun h => absurd (congrArg String.toList h) (by simp)
    have hfirst : ¬ (stageUse n).IsFuture r.currentStage ↔ n ≤ r.currentStage :=
      not_isFuture_stageUse.trans (and_iff_right_of_imp fun hle => Nat.lt_of_le_of_lt hle hcurrent)
    rw [Request.admitsInput_iff hu honly hpath, htext, ← hfirst]
    simp only [mem_indexUses_stages, forall_eq_or_imp]
  · intro hn i v formula e key hv hbody hparse hkey hx hinput hvars
    have hchars : ∀ c ∈ key.toList, Formula.isNameChar c := by
      obtain ⟨c, cs, hname, -, hcs, -⟩ := isName_of_mem_mentions hparse (List.mem_eraseDups.1 hx)
      rw [StageAlias.toList_render] at hname
      obtain ⟨-, rfl⟩ := List.cons.inj hname
      exact fun c hc => hcs c (by simp [hc])
    refine ⟨Request.admitsName_iff hcurrent hv hbody hparse hx hn (StageAlias.names_render hkey hchars) hinput
      hvars, ?_⟩
    exact Surroundings.exists_contains_iff (fun hwired => hinput (.inr hwired)) _

/-! ### At the current stage -/

/-- Logic with an input that is wired to a path and a formula that is a name. -/
def reading (path name : String) (currentStage : Nat) : Request where
  params := [⟨"width", none⟩]
  inputs := [⟨"width", path⟩]
  logic := ⟨[⟨"area", some name, none⟩]⟩
  outputs := none
  currentStage := currentStage

/-- A run with some results before a stage, each with an area. -/
def runAfter (count : Nat) : Surroundings where
  offer := .null
  catalog := ⟨[], .empty, .empty⟩
  prior := List.replicate count (Surroundings.recordOf "area")

theorem parseFormula_stage1_area : parseFormula "stage1_area" = .ok (.identifier "stage1_area") := by
  have hscan : Formula.Token.scan "stage1_area" = .ok [⟨.identifier, "stage1_area", 0⟩] := by
    decide +kernel
  rw [parseFormula, hscan]
  with_unfolding_all rfl

open Native

/-- The second stage reads itself: a check lets it, and a run does not. -/
theorem priorStages_lines_second :
    ((runAfter 1).prior.length = (reading "stages[1].totalCost" "stage1_area" 1).currentStage ∧
      (reading "stages[1].totalCost" "stage1_area" 1).currentStage < Segment.indexBound) ∧
    ((reading "stages[1].totalCost" "stage1_area" 1).AdmitsInput "width" ∧
      RefusedByRun (runAfter 1) "stages[1].totalCost") ∧
    (reading "stages[1].totalCost" "stage1_area" 1).AdmitsName "stage1_area" ∧
      ¬ ∃ prior : List Value, prior.length = 1 ∧ ({ runAfter 1 with prior }.context
        (reading "stages[1].totalCost" "stage1_area" 1).inputs).contains "stage1_area" := by
  have hprior : (runAfter 1).prior.length = (reading "stages[1].totalCost" "stage1_area" 1).currentStage := rfl
  have hcurrent : (reading "stages[1].totalCost" "stage1_area" 1).currentStage < Segment.indexBound := by
    decide
  obtain ⟨hpaths, hnames⟩ := priorStages_lines hprior hcurrent 1
  have honly : ∀ u' ∈ (reading "stages[1].totalCost" "stage1_area" 1).inputs,
      wiredName u' = wiredName ⟨"width", "stages[1].totalCost"⟩ → u' = ⟨"width", "stages[1].totalCost"⟩ :=
    List.forall_mem_singleton.2 fun _ => rfl
  have htext : Text.trim "stages[1].totalCost" = "stages[" ++ toString 1 ++ "]." ++ "totalCost" := by
    decide +kernel
  have hrest : indexUses "totalCost" = [] := by decide +kernel
  have hparse : Path.parse "stages[1].totalCost" = .ok [.key "stages", .index 1, .key "totalCost"] := by
    decide +kernel
  have hinput : ¬ (reading "stages[1].totalCost" "stage1_area" 1).IsInput (StageAlias.render 1 "area") := by
    rintro (h | h) <;> exact absurd h (by decide +kernel)
  obtain ⟨hadmits, hrefused⟩ := hpaths _ (List.mem_singleton_self _) honly "totalCost" htext
  obtain ⟨hadmitsName, hcontains⟩ := hnames (by decide) 0 _ "stage1_area" _ "area" rfl rfl
    parseFormula_stage1_area (by decide) (by decide +kernel) hinput (by decide +kernel)
  refine ⟨⟨hprior, hcurrent⟩, ⟨hadmits.2 ⟨Nat.le_refl 1, ?_⟩, hrefused.2 ⟨⟨_, hparse⟩, by decide, Nat.le_refl 1⟩⟩,
    hadmitsName.2 (Nat.le_refl 1), fun h => absurd (hcontains.1 h) (Nat.lt_irrefl 1)⟩
  rw [hrest]
  exact List.forall_mem_nil _

instance (r : Request) (name : String) : Decidable (r.AdmitsInput name) :=
  inferInstanceAs (Decidable (∀ issue ∈ _, _))

/-- **The current stage is let through and not read.**  A check of the first stage lets a path to it and an
alias of it through; a run of the first stage refuses the path, and no context of it holds the alias.

A check also raises an error about a stage to come that a run does not if a path has an index of one further on,
if it is no path, or if its number is no index; an alias whose number is no index raises none, and no run has it. -/
theorem currentStage_disagrees :
    ((reading "stages[0].totalCost" "stage0_area" 0).AdmitsInput "width" ∧
      RefusedByRun (runAfter 0) "stages[0].totalCost") ∧
    (¬ (reading "stages[0].stages[7]" "width" 1).AdmitsInput "width" ∧
      ¬ RefusedByRun (runAfter 1) "stages[0].stages[7]") ∧
    (¬ (reading "stages[5].total[" "width" 0).AdmitsInput "width" ∧
      ¬ RefusedByRun (runAfter 0) "stages[5].total[") ∧
    (¬ (reading "stages[18446744073709551616].totalCost" "width" 0).AdmitsInput "width" ∧
      ¬ RefusedByRun (runAfter 0) "stages[18446744073709551616].totalCost") ∧
    (∀ name ∈ ["stage0_area", "stage18446744073709551616_area"],
      (∀ issue ∈ (validateLogic (reading "stages[0].totalCost" name 0)).issues, issue.code ≠ .futureStage) ∧
      ¬ ∃ prior : List Value, prior.length = 0 ∧
        ({ runAfter 0 with prior }.context (reading "stages[0].totalCost" name 0).inputs).contains name) := by
  have hrefused {path rest : String} {n k : Nat}
      (htext : Text.trim path = "stages[" ++ toString n ++ "]." ++ rest) :
      RefusedByRun (runAfter k) path ↔ (∃ p, Path.parse path = .ok p) ∧ n < Segment.indexBound ∧ k ≤ n := by
    have hlength : (runAfter k).prior.length = k := List.length_replicate
    rw [RefusedByRun, Surroundings.resolve_stages htext, hlength]
  have hcurrent : Text.trim "stages[0].totalCost" = "stages[" ++ toString 0 ++ "]." ++ "totalCost" := by
    decide +kernel
  have hparse : Path.parse "stages[0].totalCost" = .ok [.key "stages", .index 0, .key "totalCost"] := by
    decide +kernel
  have hnested : Text.trim "stages[0].stages[7]" = "stages[" ++ toString 0 ++ "]." ++ "stages[7]" := by
    decide +kernel
  have htorn : Text.trim "stages[5].total[" = "stages[" ++ toString 5 ++ "]." ++ "total[" := by
    decide +kernel
  have hunclosed : Path.parse "stages[5].total[" = .error .unclosedBracket := by decide +kernel
  have hhuge : Text.trim "stages[18446744073709551616].totalCost" =
      "stages[" ++ toString 18446744073709551616 ++ "]." ++ "totalCost" := by decide +kernel
  refine ⟨⟨by decide +kernel, (hrefused hcurrent).2 ⟨⟨_, hparse⟩, by decide, Nat.le_refl 0⟩⟩,
    ⟨by decide +kernel, fun h => ?_⟩, ⟨by decide +kernel, fun h => ?_⟩, ⟨by decide +kernel, fun h => ?_⟩, ?_⟩
  · exact absurd ((hrefused hnested).1 h).2.2 (by decide)
  · obtain ⟨⟨p, hp⟩, -⟩ := (hrefused htorn).1 h
    exact absurd (hunclosed.symm.trans hp) nofun
  · exact absurd ((hrefused hhuge).1 h).2.1 (by decide)
  · intro name hname
    have hnone : ∀ name ∈ ["stage0_area", "stage18446744073709551616_area"],
        (∀ issue ∈ (validateLogic (reading "stages[0].totalCost" name 0)).issues, issue.code ≠ .futureStage) ∧
        name ∉ (reading "stages[0].totalCost" name 0).inputs.map fun u => Text.trim u.paramName := by
      decide +kernel
    refine ⟨(hnone name hname).1, ?_⟩
    rintro ⟨prior, hprior, hcontains⟩
    obtain ⟨p, hp, -⟩ := (Surroundings.contains_context (hnone name hname).2).1 hcontains
    rw [List.length_eq_zero_iff.1 hprior] at hp
    cases hp

end Costing.Validation
