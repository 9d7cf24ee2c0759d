import Costing.Proofs.Stage.Prior

/-!
# Path — how a path is laid out

A path text is a name and then steps: a point and a name, or a subscript, with or without a point in front of it.
The reader goes through it step by step, and what it reads is what the steps name.

* `Layout`: a first name and steps, `Layout.written` its text and `Layout.path` what it names.
* `readFrom_point_eq_ok_iff`, `readFrom_bracket_eq_ok_iff`: what the reader does at a step.
* `readFrom_written`, `exists_steps_of_readFrom`: between two steps, the reader takes the texts of steps and no
  other text.
* `parse_eq_ok_iff`: **a text is a path if it is that of a layout**, blanks around it apart, and then the path is
  what the layout names.
* `parse_under`: a name and a point in front of a path are one step in front of its steps.
-/

namespace Costing.Path

/-! ### Steps -/

/-- A character of a name. -/
def IsPlain (c : Char) : Prop :=
  c ≠ '.' ∧ c ≠ '[' ∧ c ≠ ']'

instance (c : Char) : Decidable (IsPlain c) :=
  inferInstanceAs (Decidable (_ ∧ _))

/-- A step of a path as it is written. -/
inductive Step where
  /-- A point and a name. -/
  | name (cs : List Char)
  /-- A subscript; the reader takes a point in front of it too. -/
  | subscript (pointed : Bool) (inner : List Char)
deriving Repr, DecidableEq

namespace Step

/-- The text of a step. -/
def written : Step → List Char
  | name cs => '.' :: cs
  | subscript pointed inner => (if pointed then ['.'] else []) ++ '[' :: (inner ++ [']'])

/-- What a step names. -/
def segment : Step → Segment
  | name cs => Segment.ofName cs
  | subscript _ inner => Segment.ofName (subscriptName inner)

/-- Steps start with a point or a bracket. -/
theorem of_mem_head?_written {steps : List Step} :
    ∀ c ∈ (steps.flatMap Step.written).head?, c = '.' ∨ c = '[' := by
  intro c hc
  cases steps with
  | nil => cases hc
  | cons s steps =>
      rw [List.flatMap_cons] at hc
      cases s with
      | name cs => cases hc; exact .inl rfl
      | subscript pointed inner =>
          cases pointed with
          | false => cases hc; exact .inr rfl
          | true => cases hc; exact .inl rfl

/-- The steps that the reader takes. -/
def WellFormed : Step → Prop
  | name cs => cs ≠ [] ∧ ∀ c ∈ cs, IsPlain c
  | subscript _ inner => ']' ∉ inner ∧ subscriptName inner ≠ []

end Step

/-- The text of a path, taken apart. -/
structure Layout where
  /-- The name in front. -/
  first : List Char
  steps : List Step
  first_ne_nil : first ≠ []
  plain_first : ∀ c ∈ first, IsPlain c
  wellFormed : ∀ s ∈ steps, s.WellFormed

namespace Layout

/-- The text of a path. -/
def written (l : Layout) : List Char :=
  l.first ++ l.steps.flatMap Step.written

/-- What a path names. -/
def path (l : Layout) : Path :=
  Segment.ofName l.first :: l.steps.map Step.segment

/-- The text before the step at a place. -/
def before (l : Layout) (i : Nat) : List Char :=
  l.first ++ (l.steps.take i).flatMap Step.written

/-- A step stands between what is before it and the steps after it. -/
theorem written_eq {l : Layout} {i : Nat} {s : Step} (h : l.steps[i]? = some s) :
    l.written = l.before i ++ (s.written ++ (l.steps.drop (i + 1)).flatMap Step.written) := by
  obtain ⟨hi, rfl⟩ := List.getElem?_eq_some_iff.1 h
  have hsplit : l.steps = l.steps.take i ++ l.steps[i] :: l.steps.drop (i + 1) := by
    rw [← List.drop_eq_getElem_cons hi, List.take_append_drop]
  rw [written, before, List.append_assoc, ← List.flatMap_cons, ← List.flatMap_append, ← hsplit]

end Layout

/-! ### One step of the reader -/

/-- Between two steps: a name has been read, or a subscript has been closed. -/
def Reading.Between (r : Reading) : Prop :=
  r.name ≠ [] ∧ r.closed = false ∨ r.name = [] ∧ r.closed = true ∧ r.done ≠ []

namespace Reading

variable {r : Reading}

theorem done_finishName_ne_nil (h : r.name ≠ [] ∨ r.done ≠ []) : r.finishName.done ≠ [] := by
  unfold finishName
  split
  · next hname => exact h.resolve_left (by simpa using hname)
  · exact nofun

@[simp] theorem name_finishName : r.finishName.name = [] := by
  unfold finishName
  split
  · next hname => exact List.isEmpty_iff.1 hname
  · rfl

theorem Between.name_or_done (h : r.Between) : r.name ≠ [] ∨ r.done ≠ [] :=
  h.imp And.left (·.2.2)

/-- The segments with the name that has been read. -/
theorem done_finishName_of_ne_nil (h : r.name ≠ []) :
    r.finishName.done = Segment.ofName r.name.reverse :: r.done := by
  rw [finishName, if_neg (by simpa using h)]

theorem finishName_of_nil (h : r.name = []) : r.finishName = r := by
  rw [finishName, if_pos (by simpa using h)]

end Reading

/-- The reading after a point. -/
def Reading.afterPoint (r : Reading) : Reading :=
  { r.finishName with closed := false }

/-- The reading after a subscript. -/
def Reading.afterSubscript (r : Reading) (inner : List Char) : Reading :=
  { r.finishName with done := Segment.ofName (subscriptName inner) :: r.finishName.done, closed := true }

variable {r : Reading} {cs : List Char} {path : Path}

/-- A point ends a name or follows a subscript, and something follows it. -/
theorem readFrom_point_eq_ok_iff : readFrom r ('.' :: cs) = .ok path ↔
    (r.name ≠ [] ∨ r.closed) ∧ cs ≠ [] ∧ readFrom r.afterPoint cs = .ok path := by
  rw [readFrom]
  split
  · next h =>
      simp only [Bool.and_eq_true, List.isEmpty_iff, Bool.not_eq_true'] at h
      simp [h]
  · next h =>
      have hstep : r.name ≠ [] ∨ r.closed := by
        by_cases hname : r.name = [] <;> simp_all
      split
      · next hempty => simp [List.isEmpty_iff.1 hempty]
      · next hne => simp [hstep, Reading.afterPoint, show cs ≠ [] by simpa using hne]

/-- A bracket opens a subscript, which follows something and names something. -/
theorem readFrom_bracket_eq_ok_iff : readFrom r ('[' :: cs) = .ok path ↔
    (r.name ≠ [] ∨ r.done ≠ []) ∧ ∃ inner rest, cs = inner ++ ']' :: rest ∧ ']' ∉ inner ∧
      subscriptName inner ≠ [] ∧ readFrom (r.afterSubscript inner) rest = .ok path := by
  constructor
  · intro h
    rw [readFrom] at h
    split at h
    · cases h
    · next hname =>
        have hstep : r.name ≠ [] ∨ r.done ≠ [] := by
          by_cases hname : r.name = [] <;> simp_all
        dsimp only at h
        split at h
        · cases h
        · next d rest hdrop =>
            split at h
            · cases h
            · next hinner =>
                obtain rfl : d = ']' := by
                  have hhead := List.head?_dropWhile_not (· != ']') cs
                  simpa [hdrop] using hhead
                refine ⟨hstep, cs.takeWhile (· != ']'), rest, ?_, fun hmem => ?_, by simpa using hinner, h⟩
                · rw [← hdrop, List.takeWhile_append_dropWhile]
                · simpa using List.mem_takeWhile_imp hmem
  · rintro ⟨hstep, inner, rest, rfl, hclose, hinner, h⟩
    rw [← h]
    exact readFrom_subscript (fun c hc => ne_of_mem_of_not_mem hc hclose) hinner hstep rest

theorem readFrom_close : readFrom r (']' :: cs) ≠ .ok path := by
  rw [readFrom]
  intro h
  cases h

/-- Nothing but a step follows a subscript. -/
theorem not_isPlain_of_readFrom {c : Char} (hr : r.Between) (hclosed : r.closed = true)
    (h : readFrom r (c :: cs) = .ok path) : ¬ IsPlain c := by
  rintro ⟨hpoint, hopen, hclose⟩
  have hname : r.name = [] := by
    rcases hr with ⟨-, hfalse⟩ | ⟨hname, -⟩
    · exact absurd (hfalse.symm.trans hclosed) nofun
    · exact hname
  rw [readFrom, if_pos (by simp [hclosed, hname])] at h
  · cases h
  all_goals assumption

theorem between_afterSubscript (r : Reading) (inner : List Char) : (r.afterSubscript inner).Between :=
  .inr ⟨r.name_finishName, rfl, nofun⟩

/-- A bracket opens a step, and the next step or the end follows it. -/
theorem exists_subscript_of_readFrom (h : readFrom r ('[' :: cs) = .ok path) :
    ∃ inner rest, cs = inner ++ ']' :: rest ∧ (']' ∉ inner ∧ subscriptName inner ≠ []) ∧
      (∀ c ∈ rest.head?, ¬ IsPlain c) ∧ readFrom (r.afterSubscript inner) rest = .ok path := by
  obtain ⟨-, inner, rest, rfl, hclose, hinner, h⟩ := readFrom_bracket_eq_ok_iff.1 h
  refine ⟨inner, rest, rfl, ⟨hclose, hinner⟩, ?_, h⟩
  cases rest with
  | nil => exact nofun
  | cons c rest =>
      rintro _ ⟨⟩
      exact not_isPlain_of_readFrom (between_afterSubscript r inner) rfl h

/-- Where nothing has been read since a point, a name or a bracket follows. -/
theorem name_or_bracket_of_readFrom (hname : r.name = []) (hclosed : r.closed = false) (hcs : cs ≠ [])
    (h : readFrom r cs = .ok path) :
    (∃ word rest, cs = word ++ rest ∧ (word ≠ [] ∧ ∀ c ∈ word, IsPlain c) ∧ (∀ c ∈ rest.head?, ¬ IsPlain c) ∧
      readFrom { r with name := word.reverse } rest = .ok path) ∨ ∃ rest, cs = '[' :: rest := by
  have hsplit := List.takeWhile_append_dropWhile (p := (IsPlain ·)) (l := cs)
  have hplain : ∀ c ∈ cs.takeWhile (IsPlain ·), IsPlain c := fun c hc => by
    simpa using List.mem_takeWhile_imp hc
  have hrest : ∀ c ∈ (cs.dropWhile (IsPlain ·)).head?, ¬ IsPlain c := fun c hc => by
    simpa using Text.ends_dropWhile hc
  by_cases hword : cs.takeWhile (IsPlain ·) = []
  · right
    rw [hword, List.nil_append] at hsplit
    obtain ⟨c, cs, rfl⟩ := List.exists_cons_of_ne_nil hcs
    rw [hsplit] at hrest
    have hspecial := hrest c rfl
    by_cases hopen : c = '['
    · exact ⟨cs, congrArg (· :: cs) hopen⟩
    · by_cases hpoint : c = '.'
      · rw [hpoint, readFrom_point_eq_ok_iff] at h
        simp [hname, hclosed] at h
      · obtain rfl : c = ']' := by
          by_contra hclose
          exact hspecial ⟨hpoint, hopen, hclose⟩
        exact absurd h readFrom_close
  · rw [← hsplit, readFrom_name hplain hclosed, hname, List.append_nil] at h
    exact .inl ⟨_, _, hsplit.symm, ⟨hword, hplain⟩, hrest, h⟩

/-! ### All steps -/

/-- A point in front of a bracket makes no difference. -/
theorem afterSubscript_afterPoint (r : Reading) (inner : List Char) :
    r.afterPoint.afterSubscript inner = r.afterSubscript inner := by
  have hname : r.afterPoint.name = [] := r.name_finishName
  rw [Reading.afterSubscript, Reading.finishName_of_nil hname]
  rfl

/-- **The texts of steps are read** as what the steps name. -/
theorem readFrom_written {steps : List Step} (hsteps : ∀ s ∈ steps, s.WellFormed) (hr : r.Between) :
    readFrom r (steps.flatMap Step.written) = .ok (r.finishName.done.reverse ++ steps.map Step.segment) := by
  induction steps generalizing r with
  | nil => simp [readFrom]
  | cons s steps ih =>
      obtain ⟨hs, hrest⟩ := List.forall_mem_cons.1 hsteps
      have hpoint : r.name ≠ [] ∨ r.closed := hr.imp And.left (·.2.1)
      rw [List.flatMap_cons, List.map_cons]
      cases s with
      | name cs =>
          obtain ⟨hcs, hplain⟩ := hs
          refine readFrom_point_eq_ok_iff.2 ⟨hpoint, by simp [hcs], ?_⟩
          have hname : cs.reverse ++ r.afterPoint.name ≠ [] := by simp [hcs]
          have hnamed : ({ r.afterPoint with name := cs.reverse ++ r.afterPoint.name } : Reading).Between :=
            .inl ⟨hname, rfl⟩
          change readFrom r.afterPoint (cs ++ steps.flatMap Step.written) = _
          rw [readFrom_name hplain rfl, ih hrest hnamed, Reading.done_finishName_of_ne_nil hname]
          simp [Reading.afterPoint, Step.segment]
      | subscript pointed inner =>
          have hread : readFrom (r.afterSubscript inner) (steps.flatMap Step.written) =
              .ok (r.finishName.done.reverse ++ Segment.ofName (subscriptName inner) :: steps.map Step.segment) := by
            have hname : (r.afterSubscript inner).name = [] := r.name_finishName
            rw [ih hrest (between_afterSubscript r inner), Reading.finishName_of_nil hname]
            simp [Reading.afterSubscript]
          cases pointed with
          | false =>
              exact readFrom_bracket_eq_ok_iff.2 ⟨hr.name_or_done, inner, _, by simp, hs.1, hs.2, hread⟩
          | true =>
              have hdone : r.afterPoint.done ≠ [] := Reading.done_finishName_ne_nil hr.name_or_done
              refine readFrom_point_eq_ok_iff.2 ⟨hpoint, List.cons_ne_nil _ _, ?_⟩
              rw [← afterSubscript_afterPoint] at hread
              exact readFrom_bracket_eq_ok_iff.2 ⟨.inr hdone, inner, _, by simp, hs.1, hs.2, hread⟩

/-- **Nothing but the texts of steps is read** between two steps. -/
theorem exists_steps_of_readFrom (hr : r.Between) (hcs : ∀ c ∈ cs.head?, ¬ IsPlain c)
    (h : readFrom r cs = .ok path) : ∃ steps : List Step, (∀ s ∈ steps, s.WellFormed) ∧
      cs = steps.flatMap Step.written := by
  -- the rest of the text gets shorter by a step, and the reader stands between two steps again
  induction hn : cs.length using Nat.strongRecOn generalizing r cs with
  | ind n ih =>
  cases cs with
  | nil => exact ⟨[], List.forall_mem_nil _, rfl⟩
  | cons c cs =>
      rw [List.length_cons] at hn
      have hspecial : c = '.' ∨ c = '[' ∨ c = ']' := by
        have := hcs c rfl
        simp only [IsPlain] at this
        tauto
      rcases hspecial with rfl | rfl | rfl
      · obtain ⟨-, hne, h⟩ := readFrom_point_eq_ok_iff.1 h
        have hname : r.afterPoint.name = [] := r.name_finishName
        rcases name_or_bracket_of_readFrom hname rfl hne h with
          ⟨word, rest, rfl, hword, hrest, h⟩ | ⟨ds, rfl⟩
        · rw [List.length_append] at hn
          obtain ⟨steps, hsteps, rfl⟩ := ih rest.length (by omega) (.inl ⟨by simp [hword.1], rfl⟩) hrest h rfl
          exact ⟨.name word :: steps, List.forall_mem_cons.2 ⟨hword, hsteps⟩, by simp [Step.written]⟩
        · obtain ⟨inner, rest, rfl, hinner, hrest, h⟩ := exists_subscript_of_readFrom h
          simp only [List.length_append, List.length_cons] at hn
          obtain ⟨steps, hsteps, rfl⟩ := ih rest.length (by omega) (between_afterSubscript _ inner) hrest h rfl
          exact ⟨.subscript true inner :: steps, List.forall_mem_cons.2 ⟨hinner, hsteps⟩, by simp [Step.written]⟩
      · obtain ⟨inner, rest, rfl, hinner, hrest, h⟩ := exists_subscript_of_readFrom h
        simp only [List.length_append, List.length_cons] at hn
        obtain ⟨steps, hsteps, rfl⟩ := ih rest.length (by omega) (between_afterSubscript _ inner) hrest h rfl
        exact ⟨.subscript false inner :: steps, List.forall_mem_cons.2 ⟨hinner, hsteps⟩, by simp [Step.written]⟩
      · exact absurd h readFrom_close

/-- **A text is a path if it is that of a layout**, blanks around it apart. -/
theorem parse_eq_ok_iff {text : String} {path : Path} : parse text = .ok path ↔
    ∃ l : Layout, Text.trimChars text.toList = l.written ∧ l.path = path := by
  have hread (l : Layout) : readFrom {} l.written = .ok l.path := by
    have hname : l.first.reverse ++ [] ≠ [] := by simp [l.first_ne_nil]
    rw [Layout.written, readFrom_name l.plain_first rfl, readFrom_written l.wellFormed (.inl ⟨hname, rfl⟩),
      Reading.done_finishName_of_ne_nil hname]
    simp [Layout.path]
  rw [parse]
  split
  · next hempty =>
      constructor
      · intro h
        cases h
      · rintro ⟨l, hl, -⟩
        simp [hl, Layout.written, l.first_ne_nil] at hempty
  · next hne =>
      constructor
      · intro h
        rcases name_or_bracket_of_readFrom rfl rfl (by simpa using hne) h with
          ⟨first, rest, hcs, ⟨hfirst, hplain⟩, hrest, h'⟩ | ⟨rest, hcs⟩
        · obtain ⟨steps, hsteps, rfl⟩ := exists_steps_of_readFrom (.inl ⟨by simp [hfirst], rfl⟩) hrest h'
          let l : Layout := ⟨first, steps, hfirst, hplain, hsteps⟩
          refine ⟨l, hcs, ?_⟩
          rw [show Text.trimChars text.toList = l.written from hcs, hread l] at h
          exact Except.ok.inj h
        · -- no name is in front of the bracket
          rw [hcs, readFrom_bracket_eq_ok_iff] at h
          simp at h
      · rintro ⟨l, hl, rfl⟩
        rw [hl, hread l]

/-! ### A name in front of a path -/

/-- A name and a point in front of the text of a path. -/
def Layout.under (l : Layout) (name : List Char) (hname : name ≠ []) (hplain : ∀ c ∈ name, IsPlain c) :
    Layout where
  first := name
  steps := .name l.first :: l.steps
  first_ne_nil := hname
  plain_first := hplain
  wellFormed := List.forall_mem_cons.2 ⟨⟨l.first_ne_nil, l.plain_first⟩, l.wellFormed⟩

/-- **A name and a point in front of a path** are a step more, and the steps of the path stay as they are. -/
theorem parse_under {name text : String} {path : Path} (hname : name.toList ≠ [])
    (hplain : ∀ c ∈ name.toList, IsPlain c) (hblank : ∀ c ∈ name.toList.head?, Text.isBlank c = false)
    (htrim : Text.trim text = text) (h : parse text = .ok path) :
    parse (name ++ "." ++ text) = .ok (Segment.ofName name.toList :: path) := by
  obtain ⟨l, hl, rfl⟩ := parse_eq_ok_iff.1 h
  have hself : Text.trimChars text.toList = text.toList := Text.trim_eq_self_iff.1 htrim
  have htext : text.toList ≠ [] := by
    rw [← hself, hl, Layout.written]
    exact List.append_ne_nil_of_left_ne_nil l.first_ne_nil _
  have hchars : (name ++ "." ++ text).toList = name.toList ++ '.' :: text.toList := by simp
  refine parse_eq_ok_iff.2 ⟨l.under name.toList hname hplain, ?_, rfl⟩
  have htrimmed : Text.trimChars (name ++ "." ++ text).toList = (name ++ "." ++ text).toList := by
    rw [Text.trimChars_eq_self_iff, hchars]
    refine ⟨?_, ?_⟩
    · rwa [List.head?_append_of_ne_nil _ hname]
    · rw [List.getLast?_append_of_ne_nil _ (List.cons_ne_nil _ _), ← List.singleton_append,
        List.getLast?_append_of_ne_nil _ htext]
      exact (Text.trimChars_eq_self_iff.1 hself).2
  rw [htrimmed, hchars, ← hself, hl]
  simp [Layout.under, Layout.written, Step.written]

end Costing.Path
