import Costing.Proofs.Path.Layout
import Costing.Proofs.Text.Trim
import Costing.Proofs.Validation.IndexSpots
import Costing.Proofs.Validation.StagePaths

/-!
# Validation — the indices of a path

The check of a wiring searches the text of its path for indices, and a run reads the path.  Whatever the text, an index
that a run reads is one that the check has found, has let through as one of the stages up to the current one, or cannot
see for how it is written.

* `Path.Layout.Passes`: the indices that the check does not object to.
* `exists_mem_indexUses`: any other index of a path is found, and the stage that it is found with is what it names.
* `validateLogic_pathIndices`: **the report has an error about the input** for every index that does not pass.
* `validateLogic_overlookedIndices`: indices in quotes, at the front, after a point that no name is in front of, and
  of `stages` further on in the path are not objected to.
-/

namespace Costing

/-- A place right after the list of stages at the front of a path, the word for the offer in front of it apart. -/
def Path.LeadsIntoStages (path : Path) (i : Nat) : Prop :=
  path.take i = [.key "stages"] ∨ path.take i = [.key "offer", .key "stages"]

instance (path : Path) (i : Nat) : Decidable (path.LeadsIntoStages i) :=
  inferInstanceAs (Decidable (_ ∨ _))

/-! ### Names that are indices -/

theorem Segment.ofName_eq_index_iff {cs : List Char} {n : Nat} :
    ofName cs = .index n ↔ Number.readNat? cs = some n ∧ n < indexBound := by
  unfold ofName
  cases Number.readNat? cs with
  | none => simp
  | some m =>
      by_cases hbound : m < indexBound
      · simp only [hbound, if_true, index.injEq, Option.some.injEq]
        exact ⟨fun h => ⟨h, h ▸ hbound⟩, And.left⟩
      · simp only [hbound, if_false, Option.some.injEq]
        constructor
        · intro h
          cases h
        · rintro ⟨rfl, hn⟩
          exact absurd hn hbound

namespace Path

open Costing.Validation (nameBefore)

/-- The name that the check takes for what a step indexes: the one that the text in front of the step ends in, blanks
before a bracket apart. -/
def Step.owner (before : List Char) : Step → List Char
  | .name _ => nameBefore before
  | .subscript pointed _ => nameBefore ((before ++ if pointed then ['.'] else []).rdropWhile Text.isBlank)

/-- **The indices that the check does not object to**, by their places in a path. -/
inductive Layout.Passes (l : Layout) (currentStage : Nat) : Nat → Prop
  /-- Nothing is in front of it. -/
  | first : Passes l currentStage 0
  /-- A subscript in quotes. -/
  | quoted {i : Nat} {pointed : Bool} {inner : List Char} (hstep : l.steps[i]? = some (.subscript pointed inner))
      (hquotes : subscriptName inner ≠ Text.trimChars inner) : Passes l currentStage (i + 1)
  /-- After a point that no name is in front of, but a bracket, a number or a character of no name. -/
  | detached {i : Nat} {cs : List Char} (hstep : l.steps[i]? = some (.name cs))
      (howner : nameBefore (l.before i) = []) : Passes l currentStage (i + 1)
  /-- A stage up to the current one, after the word `stages` anywhere in the path. -/
  | stage {i n : Nat} {s : Step} (hstep : l.steps[i]? = some s) (hindex : s.segment = .index n)
      (howner : s.owner (l.before i) = "stages".toList) (hle : n ≤ currentStage) : Passes l currentStage (i + 1)

end Path

namespace Validation

open Costing.Path (Layout Step)

/-- **An index of a path is found** unless it is in quotes or comes after a point that no name is in front of.  The
stage that it is found with, if any, is what the step names. -/
theorem exists_mem_indexUses {text : String} {l : Layout} (htext : text.toList = l.written) {i n : Nat} {s : Step}
    (hstep : l.steps[i]? = some s) (hindex : s.segment = .index n) {currentStage : Nat}
    (hnot : ¬ l.Passes currentStage (i + 1)) :
    ∃ use ∈ indexUses text, use.owner = s.owner (l.before i) ∧ ∀ stage, use.stage? = some stage → stage = n := by
  rw [Layout.written_eq hstep] at htext
  cases s with
  | name cs =>
      obtain ⟨hread, -⟩ := Segment.ofName_eq_index_iff.1 hindex
      obtain ⟨hne, hdigits, -⟩ := StageAlias.readNat?_eq_some_iff.1 hread
      have howner : nameBefore (l.before i) ≠ [] := fun h => hnot (.detached hstep h)
      refine ⟨_, mem_indexUses_dotted htext hne hdigits Step.of_mem_head?_written howner, rfl, fun stage h => ?_⟩
      exact Option.some.inj ((Option.filter_eq_some_iff.1 h).1.symm.trans hread)
  | subscript pointed inner =>
      have hquotes : Path.subscriptName inner = Text.trimChars inner := by
        by_contra h
        exact hnot (.quoted hstep h)
      obtain ⟨hread, -⟩ := Segment.ofName_eq_index_iff.1 hindex
      rw [hquotes] at hread
      obtain ⟨hne, hdigits, -⟩ := StageAlias.readNat?_eq_some_iff.1 hread
      obtain ⟨pad, pad', hinner, hpad, hpad'⟩ := Text.exists_eq_trimChars inner
      have htext' : text.toList = (l.before i ++ if pointed then ['.'] else []) ++
          '[' :: (pad ++ (Text.trimChars inner ++ (pad' ++
            ']' :: (l.steps.drop (i + 1)).flatMap Step.written))) := by
        rw [htext, Step.written]
        conv_lhs => rw [hinner]
        simp
      obtain ⟨use, huse, howner, hstage⟩ := exists_mem_indexUses_bracketed htext' hpad hne hdigits hpad'
      exact ⟨use, huse, howner, fun stage h => Option.some.inj ((hstage stage h).symm.trans hread)⟩

theorem exists_stage_of_indexIssue? {s : Subject} {currentStage : Nat} {use : IndexUse}
    (h : indexIssue? s currentStage use = none) :
    use.owner = "stages".toList ∧ ∃ stage, use.stage? = some stage ∧ stage ≤ currentStage := by
  unfold indexIssue? at h
  split at h
  · next howner =>
      split at h
      · next hany =>
          obtain ⟨stage, hstage, hle⟩ := (Option.any_eq_true _ _).1 hany
          exact ⟨beq_iff_eq.1 howner, stage, hstage, of_decide_eq_true hle⟩
      · cases h
  · cases h

/-- **Indices that do not pass are errors.**  Take a wiring whose path is read, and the layout of its text.  For every
index among the segments, the index passes or the report has an error about the input: that the index is not allowed,
or that it is one of a stage to come. -/
theorem validateLogic_pathIndices {r : Request} {u : Wiring} (hu : u ∈ r.inputs) {path : Path}
    (hparse : Path.parse u.sourcePath = .ok path) :
    (∃ l : Layout, Text.trimChars u.sourcePath.toList = l.written) ∧
    ∀ l : Layout, Text.trimChars u.sourcePath.toList = l.written → l.path = path ∧
      ∀ i n, path[i]? = some (.index n) → l.Passes r.currentStage i ∨
        ∃ issue ∈ (validateLogic r).issues, issue.isError ∧ issue.scope = .input ∧
          issue.ref = some (wiredName u) ∧ (issue.code = .forbiddenIndex ∨ issue.code = .futureStage) := by
  refine ⟨(Path.parse_eq_ok_iff.1 hparse).imp fun _ => And.left, fun l hl => ?_⟩
  obtain rfl : l.path = path :=
    Except.ok.inj ((Path.parse_eq_ok_iff.2 ⟨l, hl, rfl⟩).symm.trans hparse)
  refine ⟨rfl, fun i n hsegment => or_iff_not_imp_left.2 fun hnot => ?_⟩
  cases i with
  | zero => exact absurd .first hnot
  | succ i =>
      rw [Layout.path, List.getElem?_cons_succ, List.getElem?_map, Option.map_eq_some_iff] at hsegment
      obtain ⟨s, hstep, hindex⟩ := hsegment
      have htext : (Text.trim u.sourcePath).toList = l.written := by rw [Text.trim, String.toList_ofList, hl]
      obtain ⟨use, huse, howner, hstage⟩ := exists_mem_indexUses htext hstep hindex hnot
      cases hissue : indexIssue? (inputSubject (wiredName u)) r.currentStage use with
      | none =>
          -- the index is let through, so it is one of the stages up to the current one
          obtain ⟨hstages, stage, hsome, hle⟩ := exists_stage_of_indexIssue? hissue
          rw [hstage stage hsome] at hle
          exact absurd (.stage hstep hindex (howner.symm.trans hstages) hle) hnot
      | some issue =>
          have hpath : ¬ (Text.trim u.sourcePath).isEmpty := by
            rw [String.isEmpty_iff, ← String.toList_inj, htext]
            simp [Layout.written, l.first_ne_nil]
          have hraised : issue ∈ sourceIssues r.currentStage (wiredName u) (Text.trim u.sourcePath) := by
            rw [sourceIssues, if_neg hpath]
            exact List.mem_append_right _ (List.mem_filterMap.2 ⟨use, huse, hissue⟩)
          obtain ⟨herror, -, hkind⟩ := ofIndex_of_indexIssue? hissue
          obtain ⟨kept, hkept, hkeptError, hscope, href, hcode⟩ := Request.exists_kept hu hraised hkind
          refine ⟨kept, hkept, hkeptError.trans herror, hscope, href, ?_⟩
          rw [hcode]
          exact hkind.2.symm.imp And.left And.left

/-- Logic with one input, wired to a path, at the first stage. -/
def wiredTo (path : String) : Request where
  params := [⟨"price", none⟩]
  inputs := [⟨"price", path⟩]
  logic := ⟨[]⟩
  outputs := none
  currentStage := 0

/-- The layout of an index in the list of a stage. -/
def listLayout : Layout where
  first := ['s', 't', 'a', 'g', 'e', 's']
  steps := [.subscript false ['0'], .name ['l', 'i', 's', 't'], .subscript false [' ', '2', ' ']]
  first_ne_nil := nofun
  plain_first := by simp [Path.IsPlain]
  wellFormed := by
    simp only [List.forall_mem_cons]
    exact ⟨⟨by decide, by decide⟩, ⟨nofun, by simp [Path.IsPlain]⟩, ⟨by decide, by decide⟩, List.forall_mem_nil _⟩

/-- The first index passes and the second is an error. -/
theorem validateLogic_pathIndices_list :
    Path.parse "stages[0].list[ 2 ]" = .ok [.key "stages", .index 0, .key "list", .index 2] ∧
    ∃ issue ∈ (validateLogic (wiredTo "stages[0].list[ 2 ]")).issues, issue.isError ∧ issue.scope = .input ∧
      issue.ref = some "price" ∧ (issue.code = .forbiddenIndex ∨ issue.code = .futureStage) := by
  have hparse : Path.parse "stages[0].list[ 2 ]" = .ok [.key "stages", .index 0, .key "list", .index 2] := by
    decide +kernel
  have hname : wiredName ⟨"price", "stages[0].list[ 2 ]"⟩ = "price" := by decide +kernel
  have hwritten : Text.trimChars "stages[0].list[ 2 ]".toList = listLayout.written := by decide +kernel
  have hindices := validateLogic_pathIndices (r := wiredTo "stages[0].list[ 2 ]") List.mem_cons_self hparse
  rw [hname] at hindices
  refine ⟨hparse, ((hindices.2 listLayout hwritten).2 3 2 rfl).resolve_left fun hpasses => ?_⟩
  cases hpasses with
  | quoted hstep hquotes =>
      cases hstep
      exact hquotes (by decide +kernel)
  | detached hstep => cases hstep
  | stage hstep _ howner =>
      cases hstep
      exact absurd howner (by decide +kernel)

/-- A path with an index that is none of the stages, at the first stage, and a report that does not object to it. -/
def Overlooked (text : String) (path : Path) (i : Nat) : Prop :=
  Path.parse text = .ok path ∧ (∃ n, path[i]? = some (.index n)) ∧ ¬ path.LeadsIntoStages i ∧
    (validateLogic (wiredTo text)).issues = []

/-- **Indices that are overlooked**: in quotes, at the front of a path, after a point that follows a bracket or a
character of no name, and after a name of the stages that is not at the front. -/
theorem validateLogic_overlookedIndices :
    Overlooked "items[\"0\"].price" [.key "items", .index 0, .key "price"] 1 ∧
    Overlooked "0.price" [.index 0, .key "price"] 0 ∧
    Overlooked "stages[0].1" [.key "stages", .index 0, .index 1] 2 ∧
    Overlooked "ä.0" [.key "ä", .index 0] 1 ∧
    Overlooked "items.stages[0]" [.key "items", .key "stages", .index 0] 2 := by
  refine ⟨⟨?_, ⟨_, rfl⟩, ?_, ?_⟩, ⟨?_, ⟨_, rfl⟩, ?_, ?_⟩, ⟨?_, ⟨_, rfl⟩, ?_, ?_⟩, ⟨?_, ⟨_, rfl⟩, ?_, ?_⟩,
    ⟨?_, ⟨_, rfl⟩, ?_, ?_⟩⟩ <;> decide +kernel

end Validation

end Costing
