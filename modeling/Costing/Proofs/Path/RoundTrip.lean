import Costing.Proofs.Path.Layout

/-!
# Path — the canonical text of a path

The canonical text of a path has a point in front of every key but the first, and every index in brackets.

* `Segment.IsCanonical`: the segments that their text stands for.
* `toList_renderOnto`: the canonical text is a first key and the texts of steps, one for each segment after it.
* `parse_render`: **reading the canonical text of a path gives the path** if it starts with a key and its segments are
  canonical.
-/

namespace Costing

namespace Segment

/-- A key that can be written as it is and is not read as an index, or an index within bounds. -/
def IsCanonical : Segment → Prop
  | key name => name.toList ≠ [] ∧ (∀ c ∈ name.toList, Path.IsPlain c) ∧ Text.trimChars name.toList = name.toList ∧
      ∀ n ∈ Number.readNat? name.toList, indexBound ≤ n
  | index n => n < indexBound

/-- The step that a segment is written as after another. -/
def step : Segment → Path.Step
  | key name => .name name.toList
  | index n => .subscript false (Nat.toDigits 10 n)

theorem ofName_key {name : String} (h : (key name).IsCanonical) : ofName name.toList = key name := by
  obtain ⟨-, -, -, hindex⟩ := h
  unfold ofName
  split
  · next n hn => rw [if_neg (Nat.not_lt.2 (hindex n hn)), String.ofList_toList]
  · rw [String.ofList_toList]

variable {s : Segment}

theorem segment_step (h : s.IsCanonical) : s.step.segment = s := by
  cases s with
  | key name => exact ofName_key h
  | index n =>
      have hdigits : ∀ d ∈ Nat.toDigits 10 n, d.isDigit := fun _ => Number.isDigit_of_mem_toDigits
      rw [step, Path.Step.segment, Path.subscriptName_digits hdigits, ofName_toDigits]
      exact if_pos h

theorem wellFormed_step (h : s.IsCanonical) : s.step.WellFormed := by
  cases s with
  | key name =>
      obtain ⟨hne, hplain, -⟩ := h
      exact ⟨hne, hplain⟩
  | index n =>
      have hdigits : ∀ d ∈ Nat.toDigits 10 n, d.isDigit := fun _ => Number.isDigit_of_mem_toDigits
      refine ⟨fun hclose => absurd (hdigits _ hclose) (by decide), ?_⟩
      rw [Path.subscriptName_digits hdigits]
      exact Nat.toDigits_ne_nil

/-- No step ends in a blank. -/
theorem not_isBlank_of_mem_getLast? (h : s.IsCanonical) (before : List Char) :
    ∀ c ∈ (before ++ s.step.written).getLast?, Text.isBlank c = false := by
  cases s with
  | key name =>
      obtain ⟨hne, -, htrim, -⟩ := h
      have hend := (Text.trimChars_eq_self_iff.1 htrim).2
      rwa [step, Path.Step.written, List.append_cons, List.getLast?_append_of_ne_nil _ hne]
  | index n =>
      have hwritten : before ++ (index n).step.written = (before ++ '[' :: Nat.toDigits 10 n) ++ [']'] := by
        simp [step, Path.Step.written]
      rw [hwritten, List.getLast?_concat]
      rintro c ⟨⟩
      decide

end Segment

namespace Path

/-- The canonical text is the text in front of the segments and the texts of their steps. -/
theorem toList_renderOnto {text : String} (htext : text ≠ "") (path : Path) :
    (renderOnto text path).toList = text.toList ++ (path.map Segment.step).flatMap Step.written := by
  induction path generalizing text with
  | nil => simp [renderOnto]
  | cons s path ih =>
      cases s with
      | key name =>
          have hpoint : text.push '.' ++ name ≠ "" := by simp
          rw [renderOnto, if_neg (mt String.isEmpty_iff.1 htext), ih hpoint]
          simp [Segment.step, Step.written]
      | index n =>
          have hindex : text ++ (Segment.index n).render ≠ "" := by simp [htext]
          rw [renderOnto, ih hindex]
          simp [Segment.step, Step.written, Segment.render, Nat.toString_eq_repr, Nat.toList_repr]

/-- No canonical text ends in a blank if the text in front of the segments does not. -/
theorem not_isBlank_of_mem_getLast? {path : Path} (h : ∀ s ∈ path, s.IsCanonical) {before : List Char}
    (hbefore : ∀ c ∈ before.getLast?, Text.isBlank c = false) :
    ∀ c ∈ (before ++ (path.map Segment.step).flatMap Step.written).getLast?, Text.isBlank c = false := by
  induction path generalizing before with
  | nil => simpa using hbefore
  | cons s path ih =>
      obtain ⟨hs, hpath⟩ := List.forall_mem_cons.1 h
      rw [List.map_cons, List.flatMap_cons, ← List.append_assoc]
      exact ih hpath (Segment.not_isBlank_of_mem_getLast? hs before)

/-- **A path is read back from its canonical text** if it starts with a key, its keys can be written as they are and
none of them is read as an index. -/
theorem parse_render {name : String} {rest : Path} (h : ∀ s ∈ Segment.key name :: rest, s.IsCanonical) :
    parse (render (.key name :: rest)) = .ok (.key name :: rest) := by
  obtain ⟨hname, hrest⟩ := List.forall_mem_cons.1 h
  obtain ⟨hne, hplain, htrim, -⟩ := hname
  obtain ⟨hstart, hend⟩ := Text.trimChars_eq_self_iff.1 htrim
  let l : Layout :=
    { first := name.toList
      steps := rest.map Segment.step
      first_ne_nil := hne
      plain_first := hplain
      wellFormed := List.forall_mem_map.2 fun s hs => Segment.wellFormed_step (hrest s hs) }
  have hwritten : (render (.key name :: rest)).toList = l.written := by
    rw [render, renderOnto, if_pos (String.isEmpty_iff.2 rfl), String.empty_append,
      toList_renderOnto (mt String.toList_eq_nil_iff.2 hne)]
    rfl
  have htrimmed : Text.trimChars l.written = l.written := by
    refine Text.trimChars_eq_self_iff.2 ⟨?_, not_isBlank_of_mem_getLast? hrest hend⟩
    rwa [Layout.written, List.head?_append_of_ne_nil _ hne]
  have hpath : l.path = .key name :: rest := by
    have hsegments : (rest.map Segment.step).map Step.segment = rest := by
      rw [List.map_map]
      exact (List.map_congr_left fun s hs => Segment.segment_step (hrest s hs)).trans (List.map_id rest)
    rw [Layout.path, hsegments, Segment.ofName_key (List.forall_mem_cons.1 h).1]
  exact parse_eq_ok_iff.2 ⟨l, by rw [hwritten, htrimmed], hpath⟩

/-- Keys with a blank inside and with a number that is no index, and indices one after the other. -/
def windingPath : Path :=
  [.key "stages", .index 0, .index 18446744073709551615, .key "18446744073709551616", .key "paper size", .index 7]

theorem parse_render_windingPath : (∀ s ∈ windingPath, s.IsCanonical) ∧
    render windingPath = "stages[0][18446744073709551615].18446744073709551616.paper size[7]" ∧
    parse (render windingPath) = .ok windingPath := by
  have hcanonical : ∀ s ∈ windingPath, s.IsCanonical := by
    simp only [windingPath, List.forall_mem_cons, Segment.IsCanonical]
    refine ⟨⟨by decide, by simp [IsPlain], ?_, ?_⟩, by decide, by decide, ⟨by decide, by simp [IsPlain], ?_, ?_⟩,
      ⟨by decide, by simp [IsPlain], ?_, ?_⟩, by decide, List.forall_mem_nil _⟩ <;> decide +kernel
  exact ⟨hcanonical, by decide +kernel, parse_render hcanonical⟩

end Path

end Costing
