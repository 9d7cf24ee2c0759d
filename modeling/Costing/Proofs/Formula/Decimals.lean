import Costing.Proofs.Formula.Malformed
import Costing.Proofs.Formula.Written
import Costing.Proofs.Number.ReadBack

/-!
# Formula — number tokens

A number token is only taken where a digit stands, or a point before a digit, and is taken to the end of its
digits.  So its text is always a number, and the fault of one that is none never comes from a text.

* `IsUnsigned`: digits, at least one of them, and at most one point.
* `Taken.isUnsigned`: what is taken for a number.
* `isSome_read?`: such a text is read.
* `scan_isUnsigned`: the number tokens of a text, and what the parser makes of them.
-/

namespace Costing.Formula

/-- Digits, at least one of them, with a point among them or not. -/
def IsUnsigned (text : String) : Prop :=
  IsDecimal text.toList ∧ ∃ d ∈ text.toList, d.isDigit

theorem exists_isDigit_of_startsNumber {c : Char} {cs : List Char} (h : startsNumber c cs) :
    ∃ d ∈ c :: cs, d.isDigit := by
  rw [startsNumber, Bool.or_eq_true, Bool.and_eq_true] at h
  rcases h with hdigit | ⟨-, hnext⟩
  · exact ⟨c, List.mem_cons_self, hdigit⟩
  · obtain ⟨d, hd, hdigit⟩ := (Option.any_eq_true ..).1 hnext
    exact ⟨d, List.mem_cons_of_mem c (List.mem_of_mem_head? hd), hdigit⟩

/-- What is taken for a number is one. -/
theorem Taken.isUnsigned {slice rest : List Char} {l : Lexeme} (h : Taken slice rest l) (hkind : l.kind = .number) :
    IsUnsigned l.text := by
  cases h with
  | number hstart hdecimal =>
      rw [IsUnsigned, String.toList_ofList]
      exact ⟨hdecimal, exists_isDigit_of_startsNumber hstart⟩
  | @word c cs _ =>
      unfold wordLexeme at hkind
      split at hkind <;> cases hkind
  | paren | comma | string | long | short => cases hkind

theorem Scans.isUnsigned {position : Nat} {cs : List Char} {ts : List Token} (h : Scans position cs ts) :
    ∀ t ∈ ts, t.kind = .number → IsUnsigned t.text := by
  induction h with
  | nil => exact nofun
  | blank _ _ ih => exact ih
  | token _ hnext _ ih => exact List.forall_mem_cons.2 ⟨(taken_of_nextLexeme hnext).isUnsigned, ih⟩

/-- A number without a sign is read, since there is a digit before its point or after it. -/
theorem isSome_read? {text : String} (h : IsUnsigned text) : (Number.read? text).isSome := by
  obtain ⟨hdecimal, d, hd, hdigit⟩ := h
  have hsigned : Number.signed text.toList = (false, text.toList) := by
    unfold Number.signed
    split
    · next heq => exact absurd (hdecimal.mem '-' (heq ▸ List.mem_cons_self)) (by decide)
    · next heq => exact absurd (hdecimal.mem '+' (heq ▸ List.mem_cons_self)) (by decide)
    · rfl
  have hmagnitude : ∃ x, Number.readMagnitude? text.toList = some x := by
    obtain ⟨whole, hwhole, hform | ⟨fraction, hform, hfraction⟩⟩ := hdecimal
    · rw [hform] at hd ⊢
      exact ⟨_, Number.readMagnitude?_digits (List.ne_nil_of_mem hd) hwhole⟩
    · rw [hform] at hd ⊢
      refine ⟨_, Number.readMagnitude?_point ?_ hwhole hfraction⟩
      rcases List.mem_append.1 hd with hd | hd
      · exact .inl (List.ne_nil_of_mem hd)
      · rcases List.mem_cons.1 hd with rfl | hd
        · cases hdigit
        · exact .inr (List.ne_nil_of_mem hd)
  obtain ⟨x, hx⟩ := hmagnitude
  unfold Number.read? Number.readDecimal?
  rw [hsigned]
  dsimp only
  split
  · rfl
  · rw [hx]
    rfl

/-- Tokens whose numbers can all be read leave the parser no number to complain of. -/
theorem allows_readable : Allows (fun ts => ∀ t ∈ ts, t.kind = .number → (Number.read? t.text).isSome)
    fun fault => ∀ text position, fault ≠ .malformed (.invalidNumber text position) where
  tail hts t ht := hts t (List.mem_cons_of_mem _ ht)
  number hts hkind hnone := by
    have hsome := hts _ List.mem_cons_self hkind
    rw [hnone] at hsome
    cases hsome
  other hother text position heq := hother text position (Fault.malformed.inj heq)

/-- **Every number token of a text is a number**, with one point at most, whatever is next to it; so reading a text
never fails with a number that is none. -/
theorem scan_isUnsigned (formula : String) :
    (∀ ts, Token.scan formula = .ok ts → ∀ t ∈ ts, t.kind = .number → IsUnsigned t.text) ∧
      ∀ text position, parseFormula formula ≠ .error (.malformed (.invalidNumber text position)) := by
  have hnumbers (ts : List Token) (hscan : Token.scan formula = .ok ts) :
      ∀ t ∈ ts, t.kind = .number → IsUnsigned t.text := (scans_of_scanFrom hscan).isUnsigned
  refine ⟨hnumbers, fun text position h => ?_⟩
  have hfails : FailsOnly (fun fault => ∀ text position, fault ≠ .malformed (.invalidNumber text position))
      (parseFormula formula) := by
    refine ((scan_failsOnly formula).imp ?_).bind fun ts hscan => allows_readable.parse fun t ht hkind => ?_
    · rintro _ (_ | _ | _) <;> nofun
    · exact isSome_read? (hnumbers ts hscan t ht hkind)
  exact hfails.of_error h text position rfl

/-- A point at either end of a number, a blank between two numbers and a name right after one. -/
theorem scan_isUnsigned_points :
    Token.scan ".5 5.w" = .ok [⟨.number, ".5", 0⟩, ⟨.number, "5.", 3⟩, ⟨.identifier, "w", 5⟩] ∧
      IsUnsigned ".5" ∧ IsUnsigned "5." := by
  have hscan : Token.scan ".5 5.w" = .ok [⟨.number, ".5", 0⟩, ⟨.number, "5.", 3⟩, ⟨.identifier, "w", 5⟩] := by
    decide +kernel
  have hnumbers := (scan_isUnsigned ".5 5.w").1 _ hscan
  exact ⟨hscan, hnumbers _ (.head _) rfl, hnumbers _ (.tail _ (.head _)) rfl⟩

end Costing.Formula
