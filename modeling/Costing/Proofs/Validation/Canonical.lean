import Costing.Proofs.Validation.Report

/-!
# Validation — the order of a report

A report keeps the first of the issues that say the same, sorted by priority.

* `Issue.mem_firstsFrom_iff`: what is kept is the first issue with its key.
* `Issue.pairwise_firstsFrom`: what is kept stays in the order it was raised in.
* `Issue.filter_priority_canonical`: sorting moves nothing within one priority.  `Issue.canonical_eq_flatMap`: a report is
  what is kept of each priority, one after the other.
* `Issue.canonical_eq_append`: the same with the priorities told by severities and kinds of issues.
* `Issue.canonical_canonical`: a report in order stays as it is.
* `Issue.canonical_firsts_sorted`: **the order of a report**, told by severities and kinds of issues.
-/

namespace Costing.Issue

/-! ### The first issue with each key -/

section Firsts

variable {seen : List (Severity × Scope × Option String × String)} {issues : List Issue} {i : Issue}

/-- What is kept is the first issue with its key, unless the key was seen before. -/
theorem mem_firstsFrom_iff :
    i ∈ firstsFrom seen issues ↔ i.key ∉ seen ∧ issues.find? (fun j => j.key = i.key) = some i := by
  induction issues generalizing seen with
  | nil => simp [firstsFrom]
  | cons j rest ih =>
      rw [firstsFrom, List.find?_cons]
      by_cases hkey : j.key = i.key
      · rw [decide_eq_true hkey]
        dsimp only
        split
        · next hj => exact iff_of_false (fun h => (ih.1 h).1 (hkey ▸ hj)) fun h => h.1 (hkey ▸ hj)
        · next hj =>
            have hrest : i ∉ firstsFrom (j.key :: seen) rest :=
              fun h => key_not_mem_of_mem_firstsFrom h (hkey ▸ List.mem_cons_self)
            rw [List.mem_cons, or_iff_left hrest, Option.some_inj, ← hkey, and_iff_right hj, eq_comm]
      · rw [decide_eq_false hkey]
        dsimp only
        split
        · exact ih
        · have hne : i ≠ j := fun h => hkey (h ▸ rfl)
          rw [List.mem_cons, or_iff_right hne, ih, List.mem_cons, not_or, and_iff_right (Ne.symm hkey)]

theorem nodup_keys_firstsFrom : ((firstsFrom seen issues).map key).Nodup := by
  induction issues generalizing seen with
  | nil => exact List.nodup_nil
  | cons j rest ih =>
      rw [firstsFrom]
      split
      · exact ih
      · rw [List.map_cons, List.nodup_cons]
        refine ⟨fun h => ?_, ih⟩
        obtain ⟨i, hi, hkey⟩ := List.mem_map.1 h
        exact key_not_mem_of_mem_firstsFrom hi (hkey ▸ List.mem_cons_self)

/-- What is kept stays in order, each issue at the first place that it was raised at. -/
theorem pairwise_firstsFrom :
    (firstsFrom seen issues).Pairwise fun a b => issues.idxOf a < issues.idxOf b := by
  induction issues generalizing seen with
  | nil => exact List.Pairwise.nil
  | cons j rest ih =>
      have hlater {a : Issue} {seen} (ha : a ∈ firstsFrom seen rest) (hj : j.key ∈ seen) :
          (j :: rest).idxOf a = rest.idxOf a + 1 := by
        have hne : j ≠ a := fun h => key_not_mem_of_mem_firstsFrom ha (h ▸ hj)
        rw [List.idxOf_cons, beq_eq_false_iff_ne.2 hne, cond_false]
      have hrest {seen} (hj : j.key ∈ seen) :
          (firstsFrom seen rest).Pairwise fun a b => (j :: rest).idxOf a < (j :: rest).idxOf b := by
        refine ih.imp_of_mem fun ha hb hlt => ?_
        rw [hlater ha hj, hlater hb hj]
        exact Nat.succ_lt_succ hlt
      rw [firstsFrom]
      split
      · next hj => exact hrest hj
      · refine List.pairwise_cons.2 ⟨fun b hb => ?_, hrest List.mem_cons_self⟩
        rw [List.idxOf_cons_self, hlater hb List.mem_cons_self]
        exact Nat.succ_pos _

/-- Issues with different keys are all kept. -/
theorem firstsFrom_eq_self (hnodup : (issues.map key).Nodup) (hseen : ∀ i ∈ issues, i.key ∉ seen) :
    firstsFrom seen issues = issues := by
  induction issues generalizing seen with
  | nil => rfl
  | cons j rest ih =>
      obtain ⟨hj, hrest⟩ := List.nodup_cons.1 (List.map_cons ▸ hnodup)
      rw [firstsFrom, if_neg (hseen j List.mem_cons_self)]
      refine congrArg (j :: ·) (ih hrest fun i hi hmem => ?_)
      rcases List.mem_cons.1 hmem with hkey | hmem
      · exact hj (hkey ▸ List.mem_map_of_mem hi)
      · exact hseen i (List.mem_cons_of_mem _ hi) hmem

end Firsts

/-! ### Sorting by priority -/

variable (issues : List Issue)

theorem canonical_perm : (canonical issues).Perm (firsts issues) :=
  List.mergeSort_perm _ _

theorem priority_trans (a b c : Issue) (hab : decide (a.priority ≤ b.priority)) (hbc : decide (b.priority ≤ c.priority)) :
    decide (a.priority ≤ c.priority) :=
  decide_eq_true (Nat.le_trans (of_decide_eq_true hab) (of_decide_eq_true hbc))

theorem priority_total (a b : Issue) : decide (a.priority ≤ b.priority) || decide (b.priority ≤ a.priority) := by
  rw [Bool.or_eq_true, decide_eq_true_iff, decide_eq_true_iff]
  exact Nat.le_total _ _

theorem pairwise_priority_canonical : (canonical issues).Pairwise fun a b => decide (a.priority ≤ b.priority) :=
  List.pairwise_mergeSort priority_trans priority_total _

/-- **Sorting moves nothing within one priority.** -/
theorem filter_priority_canonical (p : Nat) :
    (canonical issues).filter (·.priority = p) = (firsts issues).filter (·.priority = p) := by
  have hsorted : ((firsts issues).filter (·.priority = p)).Pairwise fun a b => decide (a.priority ≤ b.priority) := by
    refine List.pairwise_of_forall_mem_list fun a ha b hb => decide_eq_true ?_
    have ha : a.priority = p := of_decide_eq_true (List.mem_filter.1 ha).2
    have hb : b.priority = p := of_decide_eq_true (List.mem_filter.1 hb).2
    exact Nat.le_of_eq (ha.trans hb.symm)
  have hsublist : ((firsts issues).filter (·.priority = p)).Sublist (canonical issues) :=
    List.sublist_mergeSort priority_trans priority_total hsorted List.filter_sublist
  have hkept := hsublist.filter (·.priority = p)
  simp only [List.filter_filter, Bool.and_self] at hkept
  exact (hkept.eq_of_length ((canonical_perm issues).filter _).length_eq.symm).symm

/-- A list that is sorted by numbers has those of each number below some bound one after the other. -/
theorem filter_lt_eq_flatMap {α : Type} {f : α → Nat} {l : List α} (h : l.Pairwise fun a b => f a ≤ f b) (n : Nat) :
    l.filter (f · < n) = (List.range n).flatMap fun p => l.filter (f · = p) := by
  have hsucc (n : Nat) : l.filter (f · < n + 1) = l.filter (f · < n) ++ l.filter (f · = n) := by
    induction l with
    | nil => rfl
    | cons a l ih =>
        obtain ⟨ha, hl⟩ := List.pairwise_cons.1 h
        by_cases hlt : f a < n
        · have hne : ¬ f a = n := Nat.ne_of_lt hlt
          have hlt' : f a < n + 1 := Nat.lt_succ_of_lt hlt
          simp only [List.filter_cons, hlt, hlt', hne, decide_true, decide_false, if_true, Bool.false_eq_true, if_false,
            ih hl, List.cons_append]
        · -- nothing from here on is below the bound
          have hle : ∀ b ∈ a :: l, n ≤ f b :=
            List.forall_mem_cons.2 ⟨Nat.le_of_not_lt hlt, fun b hb => Nat.le_trans (Nat.le_of_not_lt hlt) (ha b hb)⟩
          have hnone : (a :: l).filter (f · < n) = [] :=
            List.filter_eq_nil_iff.2 fun b hb hbn => Nat.not_lt.2 (hle b hb) (of_decide_eq_true hbn)
          rw [hnone, List.nil_append]
          refine List.filter_congr fun b hb => decide_eq_decide.2 ?_
          have := hle b hb
          omega
  induction n with
  | zero => simp
  | succ n ih => rw [hsucc, ih, List.range_succ, List.flatMap_append, List.flatMap_singleton]

theorem priority_lt (i : Issue) : i.priority < 5 := by
  unfold priority
  split <;> decide

/-- **A report** is what is kept of each priority, one after the other. -/
theorem canonical_eq_flatMap :
    canonical issues = (List.range 5).flatMap fun p => (firsts issues).filter (·.priority = p) := by
  have hsorted := (pairwise_priority_canonical issues).imp fun h => of_decide_eq_true h
  have hall : (canonical issues).filter (·.priority < 5) = canonical issues :=
    List.filter_eq_self.2 fun i _ => decide_eq_true i.priority_lt
  rw [← hall, filter_lt_eq_flatMap hsorted]
  simp only [filter_priority_canonical]

/-- What the priorities are, by severity and kind. -/
theorem priority_iff (i : Issue) :
    (i.priority = 0 ↔ i.severity = .error ∧ i.code = .forbiddenSource) ∧
    (i.priority = 1 ↔ i.severity = .error ∧ i.code = .syntaxFault) ∧
    (i.priority = 2 ↔ i.severity = .error ∧ (i.code = .unknownIdentifier ∨ i.code = .forwardReference)) ∧
    (i.priority = 3 ↔ i.severity = .error ∧
      i.code ∉ [.forbiddenSource, .syntaxFault, .unknownIdentifier, .forwardReference]) ∧
    (i.priority = 4 ↔ i.severity = .warning) := by
  obtain ⟨severity, _, _, code, _, _⟩ := i
  cases severity <;> cases code <;> simp [priority]

/-- **The parts of a report**, one after the other. -/
theorem canonical_eq_append :
    canonical issues =
      (firsts issues).filter (fun i => i.severity = .error ∧ i.code = .forbiddenSource) ++
      (firsts issues).filter (fun i => i.severity = .error ∧ i.code = .syntaxFault) ++
      (firsts issues).filter
        (fun i => i.severity = .error ∧ (i.code = .unknownIdentifier ∨ i.code = .forwardReference)) ++
      (firsts issues).filter (fun i => i.severity = .error ∧
        i.code ∉ [.forbiddenSource, .syntaxFault, .unknownIdentifier, .forwardReference]) ++
      (firsts issues).filter fun i => i.severity = .warning := by
  have hpart {p : Nat} {q : Issue → Prop} [DecidablePred q] (h : ∀ i : Issue, i.priority = p ↔ q i) :
      (firsts issues).filter (·.priority = p) = (firsts issues).filter (q ·) :=
    List.filter_congr fun i _ => decide_eq_decide.2 (h i)
  rw [canonical_eq_flatMap]
  show _ ++ (_ ++ (_ ++ (_ ++ (_ ++ [])))) = _
  dsimp only
  rw [List.append_nil, hpart fun i => (priority_iff i).1, hpart fun i => (priority_iff i).2.1,
    hpart fun i => (priority_iff i).2.2.1, hpart fun i => (priority_iff i).2.2.2.1,
    hpart fun i => (priority_iff i).2.2.2.2]
  simp only [List.append_assoc]

theorem nodup_keys_canonical : ((canonical issues).map key).Nodup :=
  ((canonical_perm issues).map key).nodup_iff.2 nodup_keys_firstsFrom

/-- **A report in order stays as it is.** -/
theorem canonical_canonical : canonical (canonical issues) = canonical issues := by
  have hfirsts : firsts (canonical issues) = canonical issues :=
    firstsFrom_eq_self (nodup_keys_canonical issues) fun _ _ => List.not_mem_nil
  rw [canonical, hfirsts]
  exact List.mergeSort_of_pairwise (pairwise_priority_canonical issues)

theorem mem_canonical_iff {i : Issue} :
    i ∈ canonical issues ↔ issues.find? (fun j => j.key = i.key) = some i := by
  rw [(canonical_perm issues).mem_iff, firsts, mem_firstsFrom_iff, and_iff_right List.not_mem_nil]

/-- **The order of a report.**  It has the first issue raised with each severity, scope, reference and message, once
and nothing else.  In the order they were first raised in, these are taken in five parts: errors about forbidden sources,
errors of syntax, errors about unknown identifiers and forward references, other errors, and warnings.  Putting a report
in order again changes nothing, and it has an error if and only if one was raised. -/
theorem canonical_firsts_sorted :
    (∀ i, i ∈ canonical issues ↔ issues.find? (fun j =>
      (j.severity, j.scope, j.ref, j.message) = (i.severity, i.scope, i.ref, i.message)) = some i) ∧
    ((canonical issues).map fun i => (i.severity, i.scope, i.ref, i.message)).Nodup ∧
    (∃ kept : List Issue, kept.Perm (canonical issues) ∧
      (kept.Pairwise fun a b => issues.idxOf a < issues.idxOf b) ∧
      canonical issues =
        kept.filter (fun i => i.severity = .error ∧ i.code = .forbiddenSource) ++
        kept.filter (fun i => i.severity = .error ∧ i.code = .syntaxFault) ++
        kept.filter (fun i => i.severity = .error ∧ (i.code = .unknownIdentifier ∨ i.code = .forwardReference)) ++
        kept.filter (fun i => i.severity = .error ∧
          i.code ∉ [.forbiddenSource, .syntaxFault, .unknownIdentifier, .forwardReference]) ++
        kept.filter fun i => i.severity = .warning) ∧
    canonical (canonical issues) = canonical issues ∧
    ((∃ i ∈ canonical issues, i.severity = .error) ↔ ∃ i ∈ issues, i.severity = .error) := by
  refine ⟨fun _ => mem_canonical_iff issues, nodup_keys_canonical issues,
    ⟨firsts issues, (canonical_perm issues).symm, pairwise_firstsFrom, canonical_eq_append issues⟩,
    canonical_canonical issues, ?_⟩
  have herror := any_isError_canonical issues
  rw [Bool.eq_iff_iff, List.any_eq_true, List.any_eq_true] at herror
  simpa only [isError, beq_iff_eq] using herror

end Costing.Issue
