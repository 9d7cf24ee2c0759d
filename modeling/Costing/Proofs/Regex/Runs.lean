import Costing.Native
import Costing.Proofs.Regex.Blanks
import Costing.Proofs.Regex.Room

/-!
# Regex — runs of characters

The search for one or more characters of a set, as many as there are.

* `advance_start`, `advance_within`: what one character does to the ways of the program, `oneOrMore`.
* `run_start`: the first run is found, from its first character to its last.  `allFrom_cases`: one run after the other
  is found.
* `leaves_pieces`: **the pieces of a text are what runs of blanks leave of it.**  `replace_space`: with a space for every
  match, a text is its pieces with spaces between them.
* `read?_spaces`: the pattern of a run of blanks is read as that program.
* `findsBlanks_native`: so the native engine finds the runs of blanks.
-/

namespace Costing.Regex

open Costing.Text (CharSet Leaves isBlank dropBlank)

namespace Program

/-- The program of one or more characters of a set, as many as there are. -/
def oneOrMore (set : CharSet) : Program :=
  -- it starts at the mark of the start, and the fork prefers to take another character to the mark of the end
  ⟨#[.accept, .mark 1 0, .fork 3 1, .take set.toArray 2, .mark 0 3], 4, []⟩

theorem ofRegex_rep_chars (set : CharSet) : ofRegex (.rep (.chars set) 1 none true) [] = oneOrMore set := rfl

/-- Whether the program takes a character. -/
def takes (set : CharSet) (c : Char) : Bool :=
  Text.inRanges set.toArray c.toNat

/-- The front at a place inside a run: another character is preferred to accepting. -/
def within (start place : Nat) : Front :=
  ⟨#[true, true, true, true, false], #[⟨3, [(0, start)]⟩, ⟨0, [(1, place), (0, start)]⟩]⟩

variable {set : CharSet}

/-! ### One character -/

/-- Where no run has started, one may start. -/
theorem ways_start (before after : Option Char) (place : Nat) :
    ((oneOrMore set).enter before after place ⟨(oneOrMore set).start, []⟩ (oneOrMore set).emptyFront).ways =
      #[⟨3, [(0, place)]⟩] := rfl

/-- A run that starts inside another is not preferred to it, and adds no way. -/
theorem ways_within (before after : Option Char) (start place : Nat) (best : Option Marks) :
    (if best.isNone then (oneOrMore set).enter before after place ⟨(oneOrMore set).start, []⟩ (within start place)
      else within start place).ways = (within start place).ways := by
  split <;> rfl

theorem advance_start (c : Char) (next : Option Char) (place : Nat) :
    (oneOrMore set).advance (some c) next place #[⟨3, [(0, place)]⟩].toList (oneOrMore set).emptyFront =
      (if takes set c then within place (place + 1) else (oneOrMore set).emptyFront, none) := by
  show (if takes set c then _ else _) = _
  split <;> rfl

theorem advance_within (c : Char) (next : Option Char) (start place : Nat) :
    (oneOrMore set).advance (some c) next place (within start place).ways.toList (oneOrMore set).emptyFront =
      (if takes set c then within start (place + 1) else (oneOrMore set).emptyFront, some [(1, place), (0, start)]) := by
  show (if takes set c then _ else _) = _
  split <;> rfl

/-! ### The rest of a text -/

/-- A run goes on as long as there are characters of the set. -/
theorem run_within (before : Option Char) (start place : Nat) (best : Option Marks) (cs : List Char) :
    (oneOrMore set).run before place (within start place) best cs =
      some [(1, place + (cs.takeWhile (takes set)).length), (0, start)] := by
  -- whatever match was found before, the ways are those of `within` at every place of the run
  induction cs generalizing before place best with
  | nil =>
      rw [run, ways_within]
      rfl
  | cons c cs ih =>
      rw [run, ways_within, advance_within, List.takeWhile_cons]
      cases hc : takes set c with
      | true =>
          show (oneOrMore set).run (some c) (place + 1) (within start (place + 1)) _ cs = _
          rw [ih, if_pos rfl, List.length_cons, Nat.add_right_comm, Nat.add_assoc]
      | false => rfl

theorem run_start_cons (before : Option Char) (place : Nat) (c : Char) (cs : List Char) :
    (oneOrMore set).run before place (oneOrMore set).emptyFront none (c :: cs) =
      if takes set c then some [(1, place + 1 + (cs.takeWhile (takes set)).length), (0, place)]
      else (oneOrMore set).run (some c) (place + 1) (oneOrMore set).emptyFront none cs := by
  rw [run, if_pos Option.isNone_none, ways_start, advance_start]
  cases hc : takes set c with
  | true => exact run_within (some c) place (place + 1) none cs
  | false => rfl

/-- **The first run is found**, if there is one. -/
theorem run_start (set : CharSet) (before : Option Char) (place : Nat) (cs : List Char) :
    ((∀ c ∈ cs, takes set c = false) ∧ (oneOrMore set).run before place (oneOrMore set).emptyFront none cs = none) ∨
      ∃ skipped c rest, cs = skipped ++ c :: rest ∧ (∀ c ∈ skipped, takes set c = false) ∧ takes set c ∧
        (oneOrMore set).run before place (oneOrMore set).emptyFront none cs =
          some [(1, place + skipped.length + 1 + (rest.takeWhile (takes set)).length), (0, place + skipped.length)] := by
  induction cs generalizing before place with
  | nil => exact .inl ⟨List.forall_mem_nil _, rfl⟩
  | cons c cs ih =>
      rw [run_start_cons]
      cases hc : takes set c with
      | true => exact .inr ⟨[], c, cs, rfl, List.forall_mem_nil _, hc, rfl⟩
      | false =>
          rcases ih (some c) (place + 1) with ⟨hnone, hrun⟩ | ⟨skipped, d, rest, rfl, hskipped, hd, hrun⟩
          · exact .inl ⟨List.forall_mem_cons.2 ⟨hc, hnone⟩, hrun⟩
          · refine .inr ⟨c :: skipped, d, rest, rfl, List.forall_mem_cons.2 ⟨hc, hskipped⟩, hd, hrun.trans ?_⟩
            rw [List.length_cons, Nat.add_right_comm place 1, Nat.add_assoc place]

/-! ### All runs of blanks -/

theorem takes_space : takes .space = isBlank :=
  funext Text.inRanges_space

/-- From a place on, a run of blanks comes after some characters, and ends before `stop`. -/
structure RunAfter (text : List Char) (place : Nat) (skipped : List Char) (c : Char) (rest : List Char) (stop : Nat) :
    Prop where
  drop_place : text.drop place = skipped ++ c :: rest
  skipped : ∀ c ∈ skipped, isBlank c = false
  blank : isBlank c
  drop_stop : text.drop stop = dropBlank rest
  lt_stop : place < stop
  stop_le : stop ≤ text.length

theorem RunAfter.length_sub_lt {text skipped rest : List Char} {c : Char} {place stop fuel : Nat}
    (h : RunAfter text place skipped c rest stop) (hfuel : text.length - place < fuel + 1) :
    text.length - stop < fuel := by
  have := h.lt_stop
  have := h.stop_le
  omega

/-- What the search for all runs does from a place on: none is left, or it finds the first and goes on after it. -/
theorem allFrom_cases {text : List Char} {place : Nat} (hplace : place ≤ text.length) (fuel : Nat) (last : Option Nat) :
    ((∀ c ∈ text.drop place, isBlank c = false) ∧ (oneOrMore .space).allFrom text (fuel + 1) place last = []) ∨
      ∃ skipped c rest stop, RunAfter text place skipped c rest stop ∧
        (oneOrMore .space).allFrom text (fuel + 1) place last =
          [(1, stop), (0, place + skipped.length)] :: (oneOrMore .space).allFrom text fuel stop (some stop) := by
  have hrun := run_start .space (if place = 0 then none else text[place - 1]?) place (text.drop place)
  rw [allFrom, if_neg (Nat.not_lt.2 hplace), findFrom?]
  rw [takes_space] at hrun
  rcases hrun with ⟨hnone, hrun⟩ | ⟨skipped, c, rest, hsplit, hskipped, hc, hrun⟩
  · refine .inl ⟨hnone, ?_⟩
    rw [hrun]
  · have hparts : text.drop place = (skipped ++ c :: rest.takeWhile isBlank) ++ dropBlank rest := by
      rw [hsplit, List.append_assoc, List.cons_append, dropBlank, List.takeWhile_append_dropWhile]
    have hlength : (skipped ++ c :: rest.takeWhile isBlank).length =
        skipped.length + 1 + (rest.takeWhile isBlank).length := by
      rw [List.length_append, List.length_cons, Nat.add_assoc, Nat.add_comm 1]
    have htext : text.length - place = skipped.length + 1 + (rest.takeWhile isBlank).length + (dropBlank rest).length := by
      rw [← List.length_drop, hparts, List.length_append, hlength]
    refine .inr ⟨skipped, c, rest, place + skipped.length + 1 + (rest.takeWhile isBlank).length,
      ⟨hsplit, hskipped, hc, ?_, by omega, by omega⟩, ?_⟩
    · rw [Nat.add_assoc place, Nat.add_assoc place, ← List.drop_drop, hparts]
      exact List.drop_left' hlength
    · rw [hrun]
      show (if (decide _ && _) then _ else _) = _
      rw [if_neg (by simp only [Bool.and_eq_true, decide_eq_true_eq]; omega)]

/-- From a place on, what is found is around all runs of blanks. -/
theorem leaves_piecesFrom {text : List Char} {place fuel : Nat} (hplace : place ≤ text.length)
    (hfuel : text.length - place < fuel) (last : Option Nat) :
    Leaves isBlank (text.drop place) (piecesFrom text place ((oneOrMore .space).allFrom text fuel place last)) := by
  induction fuel generalizing place last with
  | zero => cases hfuel
  | succ fuel ih =>
      obtain ⟨hnone, hall⟩ | ⟨skipped, c, rest, stop, hrun, hall⟩ := allFrom_cases hplace fuel last
      · rw [hall]
        exact .last hnone
      · have hsplit : text.drop place = skipped ++ (c :: rest.takeWhile isBlank ++ text.drop stop) := by
          rw [hrun.drop_place, hrun.drop_stop, List.cons_append, dropBlank, List.takeWhile_append_dropWhile]
        have hblank : ∀ d ∈ c :: rest.takeWhile isBlank, isBlank d :=
          List.forall_mem_cons.2 ⟨hrun.blank, fun d hd => List.mem_takeWhile_imp hd⟩
        have hrest : ∀ d ∈ (text.drop stop).head?, isBlank d = false := by
          rw [hrun.drop_stop]
          exact fun d hd => Text.ends_dropWhile hd
        have hpiece : (text.drop place).take (place + skipped.length - place) = skipped := by
          rw [hrun.drop_place, Nat.add_sub_cancel_left, List.take_left]
        rw [hall, piecesFrom]
        show Leaves isBlank _ ((text.drop place).take (place + skipped.length - place) :: piecesFrom text stop _)
        rw [hpiece, hsplit]
        exact .run hrun.skipped (List.cons_ne_nil _ _) hblank hrest (ih hrun.stop_le (hrun.length_sub_lt hfuel) _)

/-- What is around the runs of blanks. -/
theorem leaves_pieces (text : String) :
    Leaves isBlank text.toList (((oneOrMore .space).pieces text).map String.toList) := by
  have hfuel : text.toList.length - 0 < 2 * text.toList.length + 2 := by omega
  have hleaves := leaves_piecesFrom (Nat.zero_le text.toList.length) hfuel none
  rwa [List.drop_zero, ← Text.map_toList_ofList (piecesFrom _ _ _)] at hleaves

/-- Matches replaced by a character are what is around them with that character in between. -/
theorem replaceFrom_char (p : Program) (text : List Char) (c : Char) (place : Nat) (found : List Marks) :
    p.replaceFrom text [.char c] place found = [c].intercalate (piecesFrom text place found) := by
  induction found generalizing place with
  | nil => rw [replaceFrom, piecesFrom, List.intercalate_singleton]
  | cons marks rest ih =>
      have hne (stop : Nat) : piecesFrom text stop rest ≠ [] := by
        cases rest <;> exact List.cons_ne_nil _ _
      rw [replaceFrom, piecesFrom]
      show _ ++ [c] ++ p.replaceFrom text [.char c] _ rest = _
      rw [ih, List.intercalate_cons_of_ne_nil (hne _)]
      rfl

/-- With every match replaced by a space, a text is its pieces with spaces between them. -/
theorem replace_space (p : Program) (text : String) : p.replace true text " " = " ".intercalate (p.pieces text) := by
  rw [← String.toList_inj, String.toList_intercalate, pieces, Text.map_toList_ofList]
  exact String.toList_ofList.trans (p.replaceFrom_char text.toList ' ' 0 _)

end Program

/-! ### The pattern -/

theorem isAscii_space : CharSet.space.isAscii = false := by
  rw [CharSet.isAscii, CharSet.ranges_space]
  rfl

theorem setCost_space (backward : Bool) : setCost backward .space + 256 ≤ Footprint.limit := by
  cases backward with
  | false =>
      rw [setCost, ByteTree.ofSet, CharSet.ranges_space]
      decide +kernel
  | true =>
      rw [setCost, CharSet.ranges_space]
      decide +kernel

theorem readPrimitive?_space (cs : List Char) : readPrimitive? {} ('\\' :: 's' :: cs) = some (.chars .space, cs) := by
  have hset : Regex.ofSet .space = .chars .space := by rw [Regex.ofSet, CharSet.single?, CharSet.ranges_space]
  exact congrArg (fun r => some (r, cs)) hset

theorem readChoices?_spaces : readChoices? 5 [] [] { rest := ['\\', 's', '+'], flags := {} } =
    some (.rep (.chars .space) 1 none true, 1, { rest := [], flags := {} }) := by
  show (readPrimitive? {} ['\\', 's', '+'] >>= fun read =>
    readChoices? 4 [] [.part read.1 0] { rest := read.2, flags := {} }) = _
  rw [readPrimitive?_space]
  rfl

/-- The pattern of a run of blanks. -/
theorem Program.read?_spaces : Program.read? {} "\\s+" = some (oneOrMore .space) := by
  have hread : Regex.read? {} "\\s+" = some (.rep (.chars .space) 1 none true, []) := by
    show (readChoices? 5 [] [] { rest := ['\\', 's', '+'], flags := {} } >>= _) = _
    rw [readChoices?_spaces]
    show (if fits (.rep (.chars .space) 1 none true) then _ else _) = _
    rw [if_pos (fits_rep_chars isAscii_space setCost_space true)]
    rfl
  rw [Program.read?, hread]
  exact congrArg some (ofRegex_rep_chars .space)

open Native

/-- **The native engine** finds the runs of blanks. -/
theorem findsBlanks_native : FindsBlanks (Program.oneOrMore .space).matcher where
  compiled := congrArg (Option.map Program.matcher) Program.read?_spaces
  split text := isSpace_eq ▸ Program.leaves_pieces text
  replace text := Program.replace_space _ text

end Costing.Regex
