import Costing.Proofs.Path.Layout

/-!
# Path — the grammar of paths

A path is segments with points between them.  A segment is a name, which has characters other than points and
brackets, and then any number of subscripts, which name something between their brackets.

* `Spells`: the grammar, and what a text of it names.
* `spells_iff`: the grammar describes the layouts with no point in front of a bracket.
* `withoutPoints`: a text without the points right in front of its subscripts.
* `parse_grammar`: **a text is read as a path if it is of the grammar** once the points in front of its subscripts are
  taken away; those that are of the grammar as they stand have no such points.
* `parse_pointedSubscript`: a path that is not of the grammar.
-/

namespace Costing.Path

/-! ### The grammar -/

/-- A segment of the grammar: a name and the subscripts after it. -/
structure Part where
  name : List Char
  subscripts : List (List Char)
  name_ne_nil : name ≠ []
  plain_name : ∀ c ∈ name, IsPlain c
  wellFormed : ∀ inner ∈ subscripts, ']' ∉ inner ∧ subscriptName inner ≠ []

namespace Part

/-- The text of a segment. -/
def written (p : Part) : List Char :=
  p.name ++ p.subscripts.flatMap fun inner => '[' :: (inner ++ [']'])

/-- What the name and the subscripts of a segment name, in order. -/
def path (p : Part) : Path :=
  Segment.ofName p.name :: p.subscripts.map fun inner => Segment.ofName (subscriptName inner)

/-- The steps of a segment after another. -/
def steps (p : Part) : List Step :=
  .name p.name :: p.subscripts.map (.subscript false)

theorem wellFormed_steps (p : Part) : ∀ s ∈ p.steps, s.WellFormed := by
  have hname : (Step.name p.name).WellFormed := ⟨p.name_ne_nil, p.plain_name⟩
  exact List.forall_mem_cons.2 ⟨hname, List.forall_mem_map.2 p.wellFormed⟩

end Part

/-- **The grammar of paths**: the characters are segments with points between them, and the path is what these name,
in order. -/
def Spells (cs : List Char) (path : Path) : Prop :=
  ∃ parts : List Part, parts ≠ [] ∧ cs = ['.'].intercalate (parts.map Part.written) ∧
    path = parts.flatMap Part.path

/-- The text in brackets without blanks around it, between two quotes of one kind. -/
def Quoted (inner name : List Char) : Prop :=
  ∃ quote, (quote = '"' ∨ quote = '\'') ∧ Text.trimChars inner = quote :: (name ++ [quote])

theorem unquote?_eq_some_iff {quote : Char} {cs name : List Char} :
    unquote? quote cs = some name ↔ cs = quote :: (name ++ [quote]) := by
  cases cs with
  | nil => simp [unquote?]
  | cons c cs =>
      rw [unquote?]
      constructor
      · intro h
        obtain ⟨hquotes, hname⟩ := Option.ite_none_right_eq_some.1 h
        rw [Bool.and_eq_true, beq_iff_eq, beq_iff_eq] at hquotes
        obtain ⟨rfl, hlast⟩ := hquotes
        obtain ⟨cs, rfl⟩ := List.getLast?_eq_some_iff.1 hlast
        rw [List.dropLast_concat] at hname
        rw [Option.some.inj hname]
      · intro h
        obtain ⟨rfl, rfl⟩ := List.cons.inj h
        simp

/-- What a subscript names: the text in its brackets without blanks around it and, if it has them, without one
pair of quotes. -/
theorem subscriptName_eq_iff {inner name : List Char} : subscriptName inner = name ↔
    Quoted inner name ∨ (∀ bare, ¬ Quoted inner bare) ∧ Text.trimChars inner = name := by
  have hquoted (bare : List Char) : Quoted inner bare ↔
      unquote? '"' (Text.trimChars inner) = some bare ∨ unquote? '\'' (Text.trimChars inner) = some bare := by
    simp only [Quoted, unquote?_eq_some_iff]
    constructor
    · rintro ⟨quote, rfl | rfl, h⟩
      · exact .inl h
      · exact .inr h
    · rintro (h | h)
      · exact ⟨_, .inl rfl, h⟩
      · exact ⟨_, .inr rfl, h⟩
  simp only [hquoted, subscriptName]
  cases hdouble : unquote? '"' (Text.trimChars inner) with
  | some bare =>
      -- what starts with one quote does not start with the other
      have hsingle : unquote? '\'' (Text.trimChars inner) = none := by
        rw [unquote?_eq_some_iff.1 hdouble, unquote?, if_neg (by simp)]
      simp [hsingle]
  | none => cases unquote? '\'' (Text.trimChars inner) <;> simp

/-! ### Layouts of the grammar -/

/-- A step without the point in front of its bracket. -/
def Step.unpointed : Step → Step
  | name cs => .name cs
  | subscript _ inner => .subscript false inner

theorem Step.WellFormed.unpointed {s : Step} (h : s.WellFormed) : s.unpointed.WellFormed := by
  cases s <;> exact h

/-- A layout without the points in front of its brackets. -/
def Layout.unpointed (l : Layout) : Layout where
  first := l.first
  steps := l.steps.map Step.unpointed
  first_ne_nil := l.first_ne_nil
  plain_first := l.plain_first
  wellFormed := List.forall_mem_map.2 fun s hs => (l.wellFormed s hs).unpointed

theorem Layout.path_unpointed (l : Layout) : l.unpointed.path = l.path := by
  have hsegment : Step.segment ∘ Step.unpointed = Step.segment := funext fun s => by cases s <;> rfl
  rw [path, unpointed, List.map_map, hsegment]
  rfl

/-- The layout of some segments. -/
def Layout.ofParts (p : Part) (parts : List Part) : Layout where
  first := p.name
  steps := p.subscripts.map (.subscript false) ++ parts.flatMap Part.steps
  first_ne_nil := p.name_ne_nil
  plain_first := p.plain_name
  wellFormed := by
    refine List.forall_mem_append.2 ⟨List.forall_mem_map.2 p.wellFormed, fun s hs => ?_⟩
    obtain ⟨q, -, hs⟩ := List.mem_flatMap.1 hs
    exact q.wellFormed_steps s hs

theorem flatMap_written_subscripts (inners : List (List Char)) :
    (inners.map (Step.subscript false)).flatMap Step.written = inners.flatMap fun inner => '[' :: (inner ++ [']']) := by
  rw [List.flatMap_map]
  rfl

theorem Layout.written_ofParts (p : Part) (parts : List Part) :
    (ofParts p parts).written = ['.'].intercalate ((p :: parts).map Part.written) := by
  have hsteps (q : Part) : q.steps.flatMap Step.written = '.' :: q.written := by
    rw [Part.steps, List.flatMap_cons, flatMap_written_subscripts]
    rfl
  rw [written, ofParts, List.flatMap_append, flatMap_written_subscripts, ← List.append_assoc]
  change p.written ++ _ = _
  induction parts generalizing p with
  | nil => simp
  | cons q parts ih =>
      rw [List.flatMap_cons, List.flatMap_append, hsteps, List.map_cons, List.map_cons, List.intercalate_cons_cons,
        ← List.map_cons, ← ih q]
      simp

theorem Layout.path_ofParts (p : Part) (parts : List Part) :
    (ofParts p parts).path = (p :: parts).flatMap Part.path := by
  have hsegments (inners : List (List Char)) : (inners.map (Step.subscript false)).map Step.segment =
      inners.map fun inner => Segment.ofName (subscriptName inner) := by
    rw [List.map_map]
    rfl
  rw [path, ofParts, List.map_append, hsegments, List.map_flatMap, List.flatMap_cons]
  refine congrArg (p.path ++ ·) ?_
  refine List.flatMap_congr fun q _ => ?_
  rw [Part.steps, List.map_cons, hsegments]
  rfl

/-- Steps without points in front of brackets are those of some subscripts and then of segments. -/
theorem exists_parts {steps : List Step} (h : ∀ s ∈ steps, s.WellFormed) (hproper : ∀ s ∈ steps, s.unpointed = s) :
    ∃ (inners : List (List Char)) (parts : List Part), (∀ inner ∈ inners, ']' ∉ inner ∧ subscriptName inner ≠ []) ∧
      steps = inners.map (.subscript false) ++ parts.flatMap Part.steps := by
  induction steps with
  | nil => exact ⟨[], [], List.forall_mem_nil _, rfl⟩
  | cons s steps ih =>
      obtain ⟨hs, hrest⟩ := List.forall_mem_cons.1 h
      obtain ⟨hsproper, hrestproper⟩ := List.forall_mem_cons.1 hproper
      obtain ⟨inners, parts, hinners, rfl⟩ := ih hrest hrestproper
      cases s with
      | name cs => exact ⟨[], ⟨cs, inners, hs.1, hs.2, hinners⟩ :: parts, List.forall_mem_nil _, rfl⟩
      | subscript pointed inner =>
          cases hsproper
          exact ⟨inner :: inners, parts, List.forall_mem_cons.2 ⟨hs, hinners⟩, rfl⟩

/-- **The grammar describes layouts** with no point in front of a bracket. -/
theorem spells_iff {cs : List Char} {path : Path} :
    Spells cs path ↔ ∃ l : Layout, (∀ s ∈ l.steps, s.unpointed = s) ∧ cs = l.written ∧ path = l.path := by
  constructor
  · rintro ⟨parts, hne, hcs, hpath⟩
    obtain ⟨p, parts, rfl⟩ := List.exists_cons_of_ne_nil hne
    refine ⟨.ofParts p parts, fun s hs => ?_, by rw [hcs, Layout.written_ofParts], by rw [hpath, Layout.path_ofParts]⟩
    rcases List.mem_append.1 hs with hs | hs
    · obtain ⟨inner, -, rfl⟩ := List.mem_map.1 hs
      rfl
    · obtain ⟨q, -, hs⟩ := List.mem_flatMap.1 hs
      rcases List.mem_cons.1 hs with rfl | hs
      · rfl
      · obtain ⟨inner, -, rfl⟩ := List.mem_map.1 hs
        rfl
  · rintro ⟨⟨first, steps, hfirst, hplain, hwellFormed⟩, hproper, rfl, rfl⟩
    obtain ⟨inners, parts, hinners, rfl⟩ := exists_parts hwellFormed hproper
    let p : Part := ⟨first, inners, hfirst, hplain, hinners⟩
    exact ⟨p :: parts, List.cons_ne_nil _ _, Layout.written_ofParts p parts, Layout.path_ofParts p parts⟩

/-! ### Points in front of subscripts -/

/-- The characters without the points right in front of brackets that open; `inside` tells that a bracket is open. -/
def withoutPoints : (inside : Bool) → List Char → List Char
  | _, [] => []
  | true, c :: cs => c :: withoutPoints (c != ']') cs
  | false, '.' :: '[' :: cs => '[' :: withoutPoints true cs
  | false, c :: cs => c :: withoutPoints (c == '[') cs

theorem withoutPoints_eq_nil_iff {inside : Bool} {cs : List Char} : withoutPoints inside cs = [] ↔ cs = [] := by
  fun_cases withoutPoints inside cs <;> simp

/-- The first character is kept, or it is a point in front of a bracket, which is kept. -/
theorem of_withoutPoints {cs : List Char} {d : Char} {rest : List Char} (h : withoutPoints false cs = d :: rest) :
    ∃ (pointed : Bool) (cs' : List Char), cs = (if pointed then ['.'] else []) ++ d :: cs' ∧ (pointed → d = '[') ∧
      withoutPoints (d == '[') cs' = rest := by
  unfold withoutPoints at h
  split at h
  · cases h
  · next heq => cases heq
  · cases h
    exact ⟨true, _, rfl, fun _ => rfl, rfl⟩
  · cases h
    exact ⟨false, _, rfl, nofun, rfl⟩

theorem withoutPoints_cons {c : Char} (hpoint : c ≠ '.') (cs : List Char) :
    withoutPoints false (c :: cs) = c :: withoutPoints (c == '[') cs := by
  rw [withoutPoints]
  rintro _ rfl
  exact absurd rfl hpoint

theorem withoutPoints_point {cs : List Char} (h : cs.head? ≠ some '[') :
    withoutPoints false ('.' :: cs) = '.' :: withoutPoints false cs := by
  cases cs with
  | nil => rfl
  | cons c cs =>
      rw [withoutPoints]
      · rfl
      · rintro _ - hcs
        exact h (by rw [hcs, List.head?_cons])

theorem withoutPoints_name {name : List Char} (h : ∀ c ∈ name, IsPlain c) (rest : List Char) :
    withoutPoints false (name ++ rest) = name ++ withoutPoints false rest := by
  induction name with
  | nil => rfl
  | cons c name ih =>
      obtain ⟨⟨hpoint, hopen, -⟩, hname⟩ := List.forall_mem_cons.1 h
      rw [List.cons_append, withoutPoints_cons hpoint, beq_eq_false_iff_ne.2 hopen, ih hname, List.cons_append]

theorem withoutPoints_inside {inner : List Char} (h : ']' ∉ inner) (rest : List Char) :
    withoutPoints true (inner ++ ']' :: rest) = inner ++ ']' :: withoutPoints false rest := by
  induction inner with
  | nil => rfl
  | cons c inner ih =>
      obtain ⟨hc, hinner⟩ := not_or.1 (mt List.mem_cons.2 h)
      have hgoes : (c != ']') = true := bne_iff_ne.2 (Ne.symm hc)
      rw [List.cons_append, withoutPoints, hgoes, ih hinner, List.cons_append]

theorem exists_of_withoutPoints_name {name : List Char} (hname : ∀ c ∈ name, IsPlain c) {cs rest : List Char}
    (h : withoutPoints false cs = name ++ rest) : ∃ cs', cs = name ++ cs' ∧ withoutPoints false cs' = rest := by
  induction name generalizing cs with
  | nil => exact ⟨cs, rfl, h⟩
  | cons c name ih =>
      obtain ⟨⟨-, hopen, -⟩, hname⟩ := List.forall_mem_cons.1 hname
      obtain ⟨pointed, cs', rfl, hpointed, htail⟩ := of_withoutPoints h
      obtain rfl : pointed = false := Bool.eq_false_iff.2 fun hp => hopen (hpointed hp)
      rw [beq_eq_false_iff_ne.2 hopen] at htail
      obtain ⟨cs'', rfl, hrest⟩ := ih hname htail
      exact ⟨cs'', rfl, hrest⟩

theorem exists_of_withoutPoints_inside {inner : List Char} (hclose : ']' ∉ inner) {cs rest : List Char}
    (h : withoutPoints true cs = inner ++ ']' :: rest) :
    ∃ cs', cs = inner ++ ']' :: cs' ∧ withoutPoints false cs' = rest := by
  induction inner generalizing cs with
  | nil =>
      cases cs with
      | nil => cases h
      | cons c cs => cases h; exact ⟨cs, rfl, rfl⟩
  | cons c inner ih =>
      cases cs with
      | nil => cases h
      | cons d cs =>
          obtain ⟨hc, hinner⟩ := not_or.1 (mt List.mem_cons.2 hclose)
          have hgoes : (c != ']') = true := bne_iff_ne.2 (Ne.symm hc)
          rw [withoutPoints, List.cons_append] at h
          obtain ⟨rfl, htail⟩ := List.cons.inj h
          rw [hgoes] at htail
          obtain ⟨cs', rfl, hrest⟩ := ih hinner htail
          exact ⟨cs', rfl, hrest⟩

/-- **The points of steps** in front of brackets are taken away, and no others. -/
theorem withoutPoints_steps {steps : List Step} (h : ∀ s ∈ steps, s.WellFormed) :
    withoutPoints false (steps.flatMap Step.written) = (steps.map Step.unpointed).flatMap Step.written := by
  induction steps with
  | nil => rfl
  | cons s steps ih =>
      obtain ⟨hs, hrest⟩ := List.forall_mem_cons.1 h
      rw [List.flatMap_cons, List.map_cons, List.flatMap_cons, ← ih hrest]
      cases s with
      | name cs =>
          obtain ⟨hne, hplain⟩ := hs
          have hhead : (cs ++ steps.flatMap Step.written).head? ≠ some '[' := by
            obtain ⟨c, cs, rfl⟩ := List.exists_cons_of_ne_nil hne
            rintro ⟨⟩
            exact (hplain _ List.mem_cons_self).2.1 rfl
          rw [Step.written, List.cons_append, withoutPoints_point hhead, withoutPoints_name hplain]
          rfl
      | subscript pointed inner =>
          have hinside := withoutPoints_inside hs.1 (steps.flatMap Step.written)
          cases pointed <;> simp [Step.written, Step.unpointed, withoutPoints, hinside]

/-- Whatever gives the texts of steps is the texts of steps that name the same. -/
theorem exists_steps_of_withoutPoints {steps : List Step} (hsteps : ∀ s ∈ steps, s.WellFormed)
    (hproper : ∀ s ∈ steps, s.unpointed = s) {cs : List Char}
    (h : withoutPoints false cs = steps.flatMap Step.written) :
    ∃ steps' : List Step, (∀ s ∈ steps', s.WellFormed) ∧ cs = steps'.flatMap Step.written ∧
      steps'.map Step.segment = steps.map Step.segment := by
  induction steps generalizing cs with
  | nil =>
      obtain rfl := withoutPoints_eq_nil_iff.1 h
      exact ⟨[], List.forall_mem_nil _, rfl, rfl⟩
  | cons s steps ih =>
      obtain ⟨hs, hrest⟩ := List.forall_mem_cons.1 hsteps
      obtain ⟨hsproper, hrestproper⟩ := List.forall_mem_cons.1 hproper
      cases s with
      | name word =>
          obtain ⟨pointed, cs', rfl, hpointed, htail⟩ := of_withoutPoints h
          obtain rfl : pointed = false := Bool.eq_false_iff.2 fun hp => absurd (hpointed hp) (by decide)
          obtain ⟨cs'', rfl, hnext⟩ := exists_of_withoutPoints_name hs.2 htail
          obtain ⟨steps', hsteps', rfl, hsegments⟩ := ih hrest hrestproper hnext
          exact ⟨.name word :: steps', List.forall_mem_cons.2 ⟨hs, hsteps'⟩, rfl, by simp [hsegments]⟩
      | subscript pointed inner =>
          cases hsproper
          rw [List.flatMap_cons] at h
          obtain ⟨pointed, cs', rfl, -, htail⟩ := of_withoutPoints h
          have hinside : withoutPoints true cs' = inner ++ ']' :: steps.flatMap Step.written := htail.trans (by simp)
          obtain ⟨cs'', rfl, hnext⟩ := exists_of_withoutPoints_inside hs.1 hinside
          obtain ⟨steps', hsteps', rfl, hsegments⟩ := ih hrest hrestproper hnext
          refine ⟨.subscript pointed inner :: steps', List.forall_mem_cons.2 ⟨hs, hsteps'⟩, ?_, ?_⟩
          · simp [Step.written]
          · simp [hsegments, Step.segment]

/-! ### What is read -/

theorem Layout.withoutPoints_written (l : Layout) : withoutPoints false l.written = l.unpointed.written := by
  rw [written, withoutPoints_name l.plain_first, withoutPoints_steps l.wellFormed]
  rfl

/-- A text of the grammar has no points in front of its subscripts. -/
theorem Spells.withoutPoints_eq {cs : List Char} {path : Path} (h : Spells cs path) : withoutPoints false cs = cs := by
  obtain ⟨l, hproper, rfl, -⟩ := spells_iff.1 h
  have hsteps : l.steps.map Step.unpointed = l.steps :=
    (List.map_congr_left hproper).trans (List.map_id _)
  rw [l.withoutPoints_written]
  exact congrArg (fun steps => l.first ++ steps.flatMap Step.written) hsteps

/-- **The texts that are read**: a text is read as a path if, without blanks around it and without the points in front
of its subscripts, it is of the grammar, and the path is what it names.  Texts of the grammar as they stand are
those that are read and have no such points.  A subscript names the text in its brackets without blanks around it and,
if it has them, without one pair of quotes. -/
theorem parse_grammar (text : String) (path : Path) :
    (parse text = .ok path ↔ Spells (withoutPoints false (Text.trimChars text.toList)) path) ∧
    (Spells (Text.trimChars text.toList) path ↔ parse text = .ok path ∧
      withoutPoints false (Text.trimChars text.toList) = Text.trimChars text.toList) ∧
    ∀ inner name, subscriptName inner = name ↔
      Quoted inner name ∨ (∀ bare, ¬ Quoted inner bare) ∧ Text.trimChars inner = name := by
  have hread : parse text = .ok path ↔ Spells (withoutPoints false (Text.trimChars text.toList)) path := by
    rw [parse_eq_ok_iff, spells_iff]
    constructor
    · rintro ⟨l, hl, rfl⟩
      refine ⟨l.unpointed, List.forall_mem_map.2 fun s _ => by cases s <;> rfl, ?_, l.path_unpointed.symm⟩
      rw [hl, l.withoutPoints_written]
    · rintro ⟨l, hproper, hl, rfl⟩
      obtain ⟨cs, hcs, hrest⟩ := exists_of_withoutPoints_name l.plain_first hl
      obtain ⟨steps, hsteps, rfl, hsegments⟩ := exists_steps_of_withoutPoints l.wellFormed hproper hrest
      refine ⟨⟨l.first, steps, l.first_ne_nil, l.plain_first, hsteps⟩, hcs, ?_⟩
      rw [Layout.path, hsegments]
      rfl
  refine ⟨hread, ?_, fun inner name => subscriptName_eq_iff⟩
  constructor
  · intro h
    exact ⟨hread.2 (h.withoutPoints_eq.symm ▸ h), h.withoutPoints_eq⟩
  · rintro ⟨h, hpoints⟩
    exact hpoints ▸ hread.1 h

/-- **A path that is not of the grammar**: a point in front of a subscript is passed over. -/
theorem parse_pointedSubscript : parse "a.[0]" = .ok [.key "a", .index 0] ∧
    ∀ path, ¬ Spells (Text.trimChars "a.[0]".toList) path :=
  ⟨by decide +kernel, fun _ h => absurd h.withoutPoints_eq (by decide +kernel)⟩

end Costing.Path
