import Costing.Proofs.Formula.Written

/-!
# Formula — scanning is local

A token is decided by its own characters and the one after them, and the last only ends it: a token stays the
same wherever it stands, and if what follows it is replaced by something that starts alike or with a blank.

* `Replaces`: what may stand after a token in place of what does.
* `Taken.replace`: the token in front is taken again; `nextLexeme_alone` if nothing follows.
* `ScansTo`: a run of the scanner up to some place of a text.  `ScansTo.exists_replaces`: what is behind the place
  has no say in it either.
-/

namespace Costing.Formula

/-! ### What may follow -/

/-- What may stand after a token in place of `rest`: it starts as `rest` does or with a blank, or is empty. -/
def Replaces (rest' rest : List Char) : Prop :=
  ∀ d ∈ rest'.head?, d ∈ rest.head? ∨ Text.isBlank d

namespace Replaces

variable {rest rest' : List Char}

theorem refl (rest : List Char) : Replaces rest rest :=
  fun _ hd => .inl hd

theorem nil (rest : List Char) : Replaces [] rest :=
  nofun

theorem blank {c : Char} (hc : Text.isBlank c) (cs rest : List Char) : Replaces (c :: cs) rest := by
  rintro d ⟨⟩
  exact .inr hc

theorem append (h : Replaces rest' rest) (ds : List Char) : Replaces (ds ++ rest') (ds ++ rest) := by
  cases ds with
  | nil => exact h
  | cons d ds => exact fun _ hd => .inl hd

/-- What a token ends before, it ends before again, if it ends before blanks. -/
theorem head {p : Char → Prop} (h : Replaces rest' rest) (hrest : ∀ d ∈ rest.head?, p d)
    (hblank : ∀ d, Text.isBlank d → p d) : ∀ d ∈ rest'.head?, p d :=
  fun d hd => (h d hd).elim (hrest d) (hblank d)

end Replaces

/-! ### The token in front -/

/-- **A token is taken again** with what may follow it in place of what does. -/
theorem Taken.replace {slice rest rest' : List Char} {l : Lexeme} (h : Taken slice rest l)
    (hreplaces : Replaces rest' rest) : Taken slice rest' l := by
  cases h with
  | paren hc => exact .paren hc
  | comma => exact .comma
  | string hquote hbody =>
      obtain ⟨inner, happend, -, hafter⟩ := takeQuoted_closes hbody
      obtain rfl := List.append_cancel_right happend
      exact .string hquote (hafter rest')
  | number hstart hdecimal hends =>
      refine .number hstart hdecimal (hreplaces.head hends fun d hblank => ⟨not_isDigit_of_isBlank hblank, ?_⟩)
      rintro rfl
      exact absurd hblank (by decide)
  | word hc hds hends => exact .word hc hds (hreplaces.head hends fun _ => not_isNameChar_of_isBlank)
  | long hlong => exact .long hlong
  | short hc hnot =>
      have hblank : ∀ op ∈ longOperators, ∀ d ∈ op, Text.isBlank d = false := by simp [longOperators, Text.isBlank]
      refine .short hc (hreplaces.head hnot fun d hd hmem => ?_)
      exact Bool.noConfusion ((hblank _ hmem d (by simp)).symm.trans hd)

/-- **A token is the same** wherever it stands, with what may follow it in place of what does. -/
theorem nextLexeme_of_replaces {rest rest' : List Char} (hreplaces : Replaces rest' rest) {position : Nat} {c : Char}
    {ds : List Char} {l : Lexeme} (h : nextLexeme position c (ds ++ rest) = .ok (l, rest)) (other : Nat) :
    nextLexeme other c (ds ++ rest') = .ok (l, rest') :=
  ((taken_of_nextLexeme h).replace hreplaces).nextLexeme other

/-- A token is the same on its own. -/
theorem nextLexeme_alone {position : Nat} {c : Char} {ds rest : List Char} {l : Lexeme}
    (h : nextLexeme position c (ds ++ rest) = .ok (l, rest)) (other : Nat) :
    nextLexeme other c ds = .ok (l, []) := by
  have halone := nextLexeme_of_replaces (.nil rest) h other
  rwa [List.append_nil] at halone

/-! ### Runs up to a place -/

/-- Scanning `cs` takes tokens, in order, and comes to `rest`. -/
inductive ScansTo : List Char → List Lexeme → List Char → Prop where
  | here {rest : List Char} : ScansTo rest [] rest
  | blank {c : Char} {cs rest : List Char} {ls : List Lexeme} :
      Text.isBlank c → ScansTo cs ls rest → ScansTo (c :: cs) ls rest
  | token {position : Nat} {c : Char} {ds left rest : List Char} {l : Lexeme} {ls : List Lexeme} :
      Text.isBlank c = false → nextLexeme position c (ds ++ left) = .ok (l, left) → ScansTo left ls rest →
      ScansTo (c :: (ds ++ left)) (l :: ls) rest

namespace ScansTo

variable {cs rest : List Char} {ls : List Lexeme}

/-- **A run up to a place** is the same with what may stand there in place of what does. -/
theorem exists_replaces (h : ScansTo cs ls rest) :
    ∃ before, cs = before ++ rest ∧ ∀ rest', Replaces rest' rest → ScansTo (before ++ rest') ls rest' := by
  induction h with
  | here => exact ⟨[], rfl, fun _ _ => .here⟩
  | @blank c cs rest ls hblank _ ih =>
      obtain ⟨before, rfl, hbefore⟩ := ih
      exact ⟨c :: before, rfl, fun rest' hrest' => .blank hblank (hbefore rest' hrest')⟩
  | @token position c ds left rest l ls hblank hnext _ ih =>
      obtain ⟨before, rfl, hbefore⟩ := ih
      refine ⟨c :: (ds ++ before), by simp, fun rest' hrest' => ?_⟩
      have hnext' := nextLexeme_of_replaces (hrest'.append before) hnext position
      rw [List.cons_append, List.append_assoc]
      exact .token hblank hnext' (hbefore rest' hrest')

/-- The run of a text in front of a place, with something else there. -/
theorem replace {before rest' : List Char} (h : ScansTo (before ++ rest) ls rest) (hrest : Replaces rest' rest) :
    ScansTo (before ++ rest') ls rest' := by
  obtain ⟨before', happend, hbefore⟩ := h.exists_replaces
  obtain rfl := List.append_cancel_right happend
  exact hbefore rest' hrest

end ScansTo

end Costing.Formula
