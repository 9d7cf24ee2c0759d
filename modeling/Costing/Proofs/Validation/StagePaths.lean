import Costing.Proofs.Stage.Alias
import Costing.Proofs.Validation.Indices
import Costing.Proofs.Validation.Report

/-!
# Validation — paths into stages

Which wirings a report objects to for reading a stage to come.

* `mem_indexUses_stages`: the indices of a path that starts with `stages[n].`.
* `exists_future_iff`: a path raises an error about a stage to come if it has an index of one.
* `Request.exists_kept`: an error about an index in the path of a wiring is in the report.  The report keeps one
  issue of those with one message, and how the messages about indices start no other message about an input does.
* `Request.admitsInput_iff`: the report has an error about a stage to come if the path of the wiring raises one.
-/

namespace Costing.Validation

open Costing.Formula

/-! ### The indices of a path into an earlier stage -/

/-- The index that a path starts with, after the name of the stages. -/
def stageUse (n : Nat) : IndexUse :=
  ⟨"stages".toList, Nat.toDigits 10 n, false⟩

theorem stage?_stageUse (n : Nat) :
    (stageUse n).stage? = if n < Segment.indexBound then some n else none := by
  have hread : Number.readNat? (Nat.toDigits 10 n) = some n :=
    StageAlias.readNat?_eq_some_iff.2
      ⟨Nat.toDigits_ne_nil, fun _ => Number.isDigit_of_mem_toDigits, Nat.ofDigitChars_ten_toDigits⟩
  have hdigits : (stageUse n).digits = Nat.toDigits 10 n := rfl
  rw [IndexUse.stage?, hdigits, hread, Option.filter_some]
  simp

/-- The index is let through if it is one, up to the current stage. -/
theorem not_isFuture_stageUse {n currentStage : Nat} :
    ¬ (stageUse n).IsFuture currentStage ↔ n < Segment.indexBound ∧ n ≤ currentStage := by
  have howner : (stageUse n).owner = "stages".toList := rfl
  rw [IndexUse.IsFuture, stage?_stageUse, howner]
  by_cases hbound : n < Segment.indexBound <;> simp [hbound]

theorem isOwner_stages : IsOwner "stages".toList :=
  ⟨List.all_eq_true.1 (by decide), by rintro c ⟨⟩; decide⟩

theorem bracketedAt?_stages (n : Nat) (rest : List Char) :
    bracketedAt? ("stages".toList ++ '[' :: (Nat.toDigits 10 n ++ ']' :: rest)) = some (stageUse n, rest) := by
  have hnone : ∀ c ∈ ([] : List Char), Text.isBlank c := List.forall_mem_nil _
  have hdigits : ∀ d ∈ Nat.toDigits 10 n, d.isDigit := fun _ => Number.isDigit_of_mem_toDigits
  have hfound := bracketedAt?_append isOwner_stages hnone hnone Nat.toDigits_ne_nil hdigits hnone rest
  rw [List.takeWhile_nil, List.append_nil] at hfound
  exact hfound

theorem dottedAt?_of_not_start {cs : List Char} (h : ∀ c ∈ cs.head?, isNameStart c = false) :
    dottedAt? cs = none := by
  have hname : spanName cs = ([], cs) := by
    rw [spanName, if_neg]
    cases cs with
    | nil => simp
    | cons c cs => simp [h c rfl]
  rw [dottedAt?, hname]
  dsimp only
  split <;> rfl

/-- No index after a point starts in a name that no point comes after. -/
theorem dottedAt?_word {word rest : List Char} {c : Char} (hword : ∀ d ∈ word, isNameChar d)
    (hc : isNameChar c = false) (hpoint : c ≠ '.') : dottedAt? (word ++ c :: rest) = none := by
  have hstop : ∀ d ∈ (c :: rest).head?, isNameChar d = false := by simpa using hc
  by_cases hstart : (word ++ c :: rest).head?.any isNameStart
  · rw [dottedAt?, spanName, if_pos hstart, takeWhile_append_of_ends hword hstop,
      dropWhile_append_of_ends hword hstop]
    dsimp only
    split
    · next heq => exact absurd (List.cons.inj heq).1 hpoint
    · rfl
  · refine dottedAt?_of_not_start fun d hd => ?_
    rw [Option.mem_def.1 hd] at hstart
    simpa using hstart

theorem occurrences_dottedAt?_stages (n : Nat) (rest : List Char) :
    occurrences dottedAt? ("stages".toList ++ '[' :: (Nat.toDigits 10 n ++ ']' :: '.' :: rest)) =
      occurrences dottedAt? rest := by
  have hword : ∀ c ∈ "stages".toList, isNameChar c := List.all_eq_true.1 (by decide)
  have hothers : ∀ c ∈ '[' :: (Nat.toDigits 10 n ++ [']', '.']), isNameStart c = false := by
    intro c hc
    simp only [List.mem_cons, List.mem_append, List.not_mem_nil, or_false] at hc
    rcases hc with rfl | hc | rfl | rfl
    · decide
    · exact not_isNameStart_of_isDigit (Number.isDigit_of_mem_toDigits hc)
    · decide
    · decide
  -- passed over: the name, which a bracket comes after, and then what begins no name
  rw [occurrences_append "stages".toList fun ds _ hds =>
    dottedAt?_word (fun d hd => hword d (hds.subset hd)) (by decide) (by decide)]
  have hsplit : '[' :: (Nat.toDigits 10 n ++ ']' :: '.' :: rest) =
      '[' :: (Nat.toDigits 10 n ++ [']', '.']) ++ rest := by simp
  rw [hsplit]
  refine occurrences_append _ fun ds hne hds => dottedAt?_of_not_start fun c hc => ?_
  obtain ⟨d, ds, rfl⟩ := List.exists_cons_of_ne_nil hne
  cases hc
  exact hothers _ (hds.subset List.mem_cons_self)

/-- **The indices of a path into an earlier stage**: the one that it starts with, and those of the rest. -/
theorem mem_indexUses_stages {n : Nat} {rest : String} {use : IndexUse} :
    use ∈ indexUses ("stages[" ++ toString n ++ "]." ++ rest) ↔ use = stageUse n ∨ use ∈ indexUses rest := by
  have hchars : ("stages[" ++ toString n ++ "]." ++ rest).toList =
      "stages".toList ++ '[' :: (Nat.toDigits 10 n ++ ']' :: '.' :: rest.toList) := by
    simp
  have hpoint : bracketedAt? ('.' :: rest.toList) = none := by
    simp [bracketedAt?, spanName, Text.dropBlank, isNameStart, Text.isBlank]
  -- in brackets, the index in front is found at once and the point after it is passed over
  have hbracketed : occurrences bracketedAt?
      ("stages".toList ++ '[' :: (Nat.toDigits 10 n ++ ']' :: '.' :: rest.toList)) =
      stageUse n :: occurrences bracketedAt? rest.toList := by
    rw [← occurrences_cons_of_none hpoint]
    exact occurrences_cons_of_some (bracketedAt?_stages n _) (by simp; omega)
  rw [indexUses, hchars, hbracketed, occurrences_dottedAt?_stages, List.cons_append, List.mem_cons, indexUses]

/-! ### Issues of inputs -/

/-- An issue of an input that is about no index, told from those that are by how its message starts. -/
def Declares (issue : Issue) : Prop :=
  issue.scope = .input ∧ issue.code ≠ .futureStage ∧
    issue.message.toList.head? ∈ [some '\'', some 'I', some 'P']

/-- An issue of an input that is about an index: of a stage to come, if its message starts with the name of the
stages, or one that is not allowed. -/
def OfIndex (issue : Issue) : Prop :=
  issue.scope = .input ∧ (issue.code = .futureStage ∧ issue.message.toList.head? = some 's' ∨
    issue.code = .forbiddenIndex ∧ issue.message.toList.head? = some 'N')

theorem declares_paramIssues (earlier : List String) (params : List Param) :
    ∀ issue ∈ paramIssues earlier params, Declares issue := by
  induction params generalizing earlier with
  | nil => exact List.forall_mem_nil _
  | cons p rest ih =>
      rw [paramIssues, List.forall_mem_append, List.forall_mem_append]
      refine ⟨⟨?_, ?_⟩, ih _⟩ <;> split <;> simp [Declares, Subject.error, inputSubject]

theorem declares_unwiredIssues (inputs : List Wiring) (params : List Param) :
    ∀ issue ∈ unwiredIssues inputs params, Declares issue := by
  intro issue h
  obtain ⟨p, -, hp⟩ := List.mem_filterMap.1 h
  dsimp only at hp
  split at hp
  · cases hp
  · cases hp
    simp [Declares, Subject.warning, inputSubject]

theorem ofIndex_of_indexIssue? {currentStage : Nat} {name : String} {use : IndexUse} {issue : Issue}
    (h : indexIssue? (inputSubject name) currentStage use = some issue) :
    issue.isError ∧ issue.ref = some name ∧ OfIndex issue := by
  unfold indexIssue? at h
  split at h
  · next howner =>
      split at h
      · cases h
      · cases h
        have hshown : use.shown.toList.head? = some 's' := by
          rw [IndexUse.shown, beq_iff_eq.1 howner]
          cases use.dotted <;> simp
        exact ⟨rfl, rfl, rfl, .inl ⟨rfl, by simp [Subject.error, List.head?_append, hshown]⟩⟩
  · cases h
    exact ⟨rfl, rfl, rfl, .inr ⟨rfl, by simp [Subject.error]⟩⟩

/-- What the path of a wiring raises is about the wiring. -/
theorem of_mem_sourceIssues {currentStage : Nat} {name path : String} :
    ∀ issue ∈ sourceIssues currentStage name path,
      issue.ref = some name ∧ (Declares issue ∨ OfIndex issue) := by
  intro issue h
  unfold sourceIssues at h
  dsimp only at h
  split at h
  · rw [List.mem_singleton.1 h]
    exact ⟨rfl, .inl (by simp [Declares, Subject.error, inputSubject])⟩
  · rcases List.mem_append.1 h with h | h
    · obtain ⟨root, -, rfl⟩ := List.mem_map.1 h
      exact ⟨rfl, .inl (by simp [Declares, Subject.error, inputSubject])⟩
    · obtain ⟨use, -, hissue⟩ := List.mem_filterMap.1 h
      exact (ofIndex_of_indexIssue? hissue).2.imp_right .inr

theorem of_mem_wiringIssues {declared : List String} {currentStage : Nat} (earlier : List String)
    (inputs : List Wiring) : ∀ issue ∈ wiringIssues declared currentStage earlier inputs, Declares issue ∨
      ∃ u ∈ inputs, issue ∈ sourceIssues currentStage (wiredName u) (Text.trim u.sourcePath) := by
  induction inputs generalizing earlier with
  | nil => exact List.forall_mem_nil _
  | cons u rest ih =>
      rw [wiringIssues, List.forall_mem_append, List.forall_mem_append, List.forall_mem_append]
      refine ⟨⟨⟨?_, ?_⟩, fun issue h => .inr ⟨u, List.mem_cons_self, h⟩⟩, fun issue h => ?_⟩
      · split <;> simp [Declares, Subject.error, inputSubject]
      · split <;> simp [Declares, Subject.error, inputSubject]
      · rcases ih _ issue h with hdeclares | ⟨w, hw, hissue⟩
        · exact .inl hdeclares
        · exact .inr ⟨w, List.mem_cons_of_mem _ hw, hissue⟩

/-- Every path is checked. -/
theorem mem_wiringIssues {declared : List String} {currentStage : Nat} {earlier : List String}
    {inputs : List Wiring} {u : Wiring} (hu : u ∈ inputs) {issue : Issue}
    (h : issue ∈ sourceIssues currentStage (wiredName u) (Text.trim u.sourcePath)) :
    issue ∈ wiringIssues declared currentStage earlier inputs := by
  induction inputs generalizing earlier with
  | nil => cases hu
  | cons w rest ih =>
      rw [wiringIssues]
      rcases List.mem_cons.1 hu with rfl | hu
      · exact List.mem_append_left _ (List.mem_append_right _ h)
      · exact List.mem_append_right _ (ih hu)

/-- A path raises an error about a stage to come if it has an index of one. -/
theorem exists_future_iff {currentStage : Nat} {name path : String} (hpath : path ≠ "") :
    (∃ issue ∈ sourceIssues currentStage name path, issue.code = .futureStage) ↔
      ∃ use ∈ indexUses path, use.IsFuture currentStage := by
  have hempty : ¬ path.isEmpty := fun h => hpath (String.isEmpty_iff.1 h)
  rw [sourceIssues, if_neg hempty]
  constructor
  · rintro ⟨issue, h, hcode⟩
    rcases List.mem_append.1 h with h | h
    · obtain ⟨root, -, rfl⟩ := List.mem_map.1 h
      cases hcode
    · obtain ⟨use, huse, hissue⟩ := List.mem_filterMap.1 h
      refine ⟨use, huse, (isFuture_or_of_indexIssue? hissue).resolve_right fun hother => ?_⟩
      exact absurd (hcode.symm.trans hother) nofun
  · rintro ⟨use, huse, hfuture⟩
    exact ⟨_, List.mem_append_right _ (List.mem_filterMap.2 ⟨use, huse, indexIssue?_of_isFuture hfuture⟩), rfl⟩

namespace Request

variable {r : Request}

/-- The issues of inputs. -/
theorem of_mem_inputIssues : ∀ issue ∈ inputIssues r, Declares issue ∨
    ∃ u ∈ r.inputs, issue ∈ sourceIssues r.currentStage (wiredName u) (Text.trim u.sourcePath) := by
  rw [inputIssues, List.forall_mem_append, List.forall_mem_append]
  exact ⟨⟨fun issue h => .inl (declares_paramIssues _ _ issue h), of_mem_wiringIssues _ _⟩,
    fun issue h => .inl (declares_unwiredIssues _ _ issue h)⟩

/-- The issues of inputs are about an index or not. -/
theorem declares_or_ofIndex {issue : Issue} (h : issue ∈ inputIssues r) : Declares issue ∨ OfIndex issue := by
  rcases of_mem_inputIssues issue h with hdeclares | ⟨u, -, hsource⟩
  · exact .inl hdeclares
  · exact (of_mem_sourceIssues issue hsource).2

/-- What is raised is about an input, about a variable or about a result. -/
theorem of_mem_raised {issue : Issue} (h : issue ∈ r.raised) :
    issue ∈ inputIssues r ∨ (∃ i, issue ∈ r.checkIssues i) ∨ issue.scope = .result ∧ issue.code = .output := by
  rcases List.mem_append.1 h with h | h
  · rcases List.mem_append.1 h with h | h
    · exact .inl h
    · exact .inr (.inl (mem_variables_issues.1 h))
  · refine .inr (.inr ?_)
    cases houtputs : r.outputs with
    | none => rw [houtputs] at h; cases h
    | some outputs => rw [houtputs] at h; exact of_mem_outputIssues issue h

theorem mem_inputIssues_of_raised {issue : Issue} (h : issue ∈ r.raised) (hscope : issue.scope = .input) :
    issue ∈ inputIssues r := by
  rcases of_mem_raised h with h | ⟨i, h⟩ | ⟨hresult, -⟩
  · exact h
  · exact absurd (hscope.symm.trans (scope_of_mem_checkIssues h)) nofun
  · exact absurd (hscope.symm.trans hresult) nofun

theorem exists_mem_checkIssues_of_raised {issue : Issue} (h : issue ∈ r.raised) (hscope : issue.scope = .var) :
    ∃ i, issue ∈ r.checkIssues i := by
  rcases of_mem_raised h with h | h | ⟨hresult, -⟩
  · have hinput : issue.scope = .input := (declares_or_ofIndex h).elim And.left And.left
    exact absurd (hscope.symm.trans hinput) nofun
  · exact h
  · exact absurd (hscope.symm.trans hresult) nofun

/-- A report without an error about a stage to come in the path of an input. -/
def AdmitsInput (r : Request) (name : String) : Prop :=
  ∀ issue ∈ (validateLogic r).issues, issue.scope = .input → issue.ref = some name → issue.code ≠ .futureStage

/-- An issue about an index is in the report as such: the message that it is kept by tells its kind. -/
theorem exists_kept {u : Wiring} (hu : u ∈ r.inputs) {issue : Issue}
    (h : issue ∈ sourceIssues r.currentStage (wiredName u) (Text.trim u.sourcePath)) (hindex : OfIndex issue) :
    ∃ kept ∈ (validateLogic r).issues, kept.isError = issue.isError ∧ kept.scope = .input ∧
      kept.ref = some (wiredName u) ∧ kept.code = issue.code := by
  have hraised : issue ∈ r.raised := List.mem_append_left _ (List.mem_append_left _
    (List.mem_append_left _ (List.mem_append_right _ (mem_wiringIssues hu h))))
  obtain ⟨kept, hkept, hkey⟩ := Issue.exists_mem_canonical hraised
  have hscope : kept.scope = .input := (Issue.scope_congr hkey).trans hindex.1
  have href : kept.ref = some (wiredName u) := (Issue.ref_congr hkey).trans (of_mem_sourceIssues issue h).1
  have hmessage : kept.message = issue.message := Issue.message_congr hkey
  have hinput := mem_inputIssues_of_raised (Issue.mem_of_mem_canonical hkept) hscope
  refine ⟨kept, hkept, Issue.isError_congr hkey, hscope, href, ?_⟩
  unfold OfIndex at hindex
  rw [← hmessage] at hindex
  rcases hindex.2 with ⟨hcode, hhead⟩ | ⟨hcode, hhead⟩
  · rcases declares_or_ofIndex hinput with ⟨-, -, hother⟩ | ⟨-, ⟨hkind, -⟩ | ⟨-, hother⟩⟩
    · simp [hhead] at hother
    · exact hkind.trans hcode.symm
    · simp [hhead] at hother
  · rcases declares_or_ofIndex hinput with ⟨-, -, hother⟩ | ⟨-, ⟨-, hother⟩ | ⟨hkind, -⟩⟩
    · simp [hhead] at hother
    · simp [hhead] at hother
    · exact hkind.trans hcode.symm

/-- An error about a stage to come is in the report as such. -/
theorem admitsInput_iff {u : Wiring} (hu : u ∈ r.inputs)
    (honly : ∀ w ∈ r.inputs, wiredName w = wiredName u → w = u) (hpath : Text.trim u.sourcePath ≠ "") :
    r.AdmitsInput (wiredName u) ↔ ∀ use ∈ indexUses (Text.trim u.sourcePath), ¬ use.IsFuture r.currentStage := by
  have hnone : (∀ use ∈ indexUses (Text.trim u.sourcePath), ¬ use.IsFuture r.currentStage) ↔
      ¬ ∃ issue ∈ sourceIssues r.currentStage (wiredName u) (Text.trim u.sourcePath),
        issue.code = .futureStage := by
    rw [exists_future_iff hpath]
    simp
  rw [hnone]
  constructor
  · rintro hadmits ⟨issue, hissue, hcode⟩
    have hindex : OfIndex issue := (of_mem_sourceIssues issue hissue).2.resolve_left fun h => h.2.1 hcode
    obtain ⟨kept, hkept, -, hscope, href, hkind⟩ := exists_kept hu hissue hindex
    exact hadmits kept hkept hscope href (hkind.trans hcode)
  · rintro hnot issue hissue hscope href hcode
    have hinput := mem_inputIssues_of_raised (Issue.mem_of_mem_canonical hissue) hscope
    rcases of_mem_inputIssues issue hinput with hdeclares | ⟨w, hw, hsource⟩
    · exact hdeclares.2.1 hcode
    · have hname : wiredName w = wiredName u :=
        Option.some.inj ((of_mem_sourceIssues issue hsource).1.symm.trans href)
      rw [honly w hw hname] at hsource
      exact hnot ⟨issue, hsource, hcode⟩

end Request

end Costing.Validation
