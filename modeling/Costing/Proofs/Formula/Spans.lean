import Costing.Proofs.Formula.Local

/-!
# Formula — the spans of tokens

A scanned text is covered by its tokens: each is cut out of the text by a span in bytes, and what no span covers
is blank.  No character is dropped, read twice or changed.

* `Spells`: how the characters of a span tell the text of a token.  Numbers, names, parentheses, commas and
  operators are their own text; the words `and`, `or` and `not` stand for operators; a string stands between two
  quotes of one kind.
* `scan_alone`: the characters of a token are scanned to it again.
* `Scans.exists_spans`: the invariant of a run of the scanner, over what was taken before.
* `scan_spans`: the spans of a text.
-/

namespace Costing.Formula

/-! ### Bytes -/

@[simp] theorem byteCount_nil : byteCount [] = 0 :=
  rfl

@[simp] theorem byteCount_cons (c : Char) (cs : List Char) : byteCount (c :: cs) = c.utf8Size + byteCount cs :=
  rfl

@[simp] theorem byteCount_append (cs ds : List Char) : byteCount (cs ++ ds) = byteCount cs + byteCount ds := by
  induction cs with
  | nil => simp
  | cons c cs ih => simp [ih, Nat.add_assoc]

theorem byteCount_pos (c : Char) (cs : List Char) : 0 < byteCount (c :: cs) :=
  Nat.add_pos_left c.utf8Size_pos _

/-! ### How tokens are spelled -/

/-- The words that are operators. -/
def wordOperators : List (String × String) :=
  [("and", "&&"), ("or", "||"), ("not", "!")]

theorem wordOperator?_eq_some_iff {word symbol : String} :
    wordOperator? word = some symbol ↔ ∃ lower, (lower, symbol) ∈ wordOperators ∧ word.toLower = lower := by
  constructor
  · intro h
    unfold wordOperator? at h
    split at h
    · next hword => cases h; exact ⟨_, .head _, hword⟩
    · next hword => cases h; exact ⟨_, .tail _ (.head _), hword⟩
    · next hword => cases h; exact ⟨_, .tail _ (.tail _ (.head _)), hword⟩
    · cases h
  · rintro ⟨lower, hmem, hword⟩
    simp only [wordOperators, List.mem_cons, Prod.mk.injEq, List.not_mem_nil, or_false] at hmem
    rw [wordOperator?, hword]
    rcases hmem with ⟨rfl, rfl⟩ | ⟨rfl, rfl⟩ | ⟨rfl, rfl⟩ <;> rfl

/-- Characters that spell the text of a token of a kind. -/
inductive Spells : List Char → TokenKind → String → Prop where
  | verbatim {slice : List Char} {kind : TokenKind} : kind ≠ .string → Spells slice kind (String.ofList slice)
  /-- A word in any case for the symbol of an operator. -/
  | word {slice : List Char} {lower symbol : String} :
      (lower, symbol) ∈ wordOperators → (String.ofList slice).toLower = lower → Spells slice .operator symbol
  | string {quote : Char} {body : List Char} :
      quote = '"' ∨ quote = '\'' → Spells (quote :: (body ++ [quote])) .string (String.ofList (unescape body))

/-- **A token is spelled as it is written.** -/
theorem Written.spells {kind : TokenKind} {text : String} {slice rest : List Char}
    (h : Written kind text slice rest) : Spells slice kind text := by
  cases h with
  | opening | closing | comma => exact .verbatim (by decide)
  | @string quote inner body _ hquote hbody =>
      obtain ⟨inner', happend, rfl, -⟩ := takeQuoted_closes hbody
      obtain rfl := List.append_cancel_right happend
      exact .string hquote
  | number | operator => exact .verbatim (by decide)
  | @word c cs _ =>
      unfold wordLexeme
      split
      · next hword =>
          obtain ⟨lower, hmem, hlower⟩ := wordOperator?_eq_some_iff.1 hword
          exact .word hmem hlower
      · exact .verbatim nofun

/-! ### A token on its own -/

/-- The characters of a token give it again, at their start. -/
theorem scan_alone {position : Nat} {c : Char} {ds rest : List Char} {l : Lexeme} (hblank : Text.isBlank c = false)
    (h : nextLexeme position c (ds ++ rest) = .ok (l, rest)) :
    Token.scan (String.ofList (c :: ds)) = .ok [⟨l.kind, l.text, 0⟩] := by
  have halone : nextLexeme 0 c (ds ++ []) = .ok (l, []) := by
    rw [List.append_nil]
    exact nextLexeme_alone h 0
  have hscan := scanFrom_cons_of_ok hblank halone
  rw [List.append_nil, scanFrom_nil] at hscan
  rw [Token.scan, String.toList_ofList, hscan]
  rfl

/-! ### Spans -/

/-- A part of a text, from one offset in bytes up to another. -/
structure Span where
  start : Nat
  stop : Nat
deriving Repr, DecidableEq

/-- What a span cuts out of a text. -/
def Span.Cuts (s : Span) (text slice : List Char) : Prop :=
  ∃ before after, text = before ++ slice ++ after ∧ byteCount before = s.start ∧
    byteCount (before ++ slice) = s.stop

/-- A span covers the offsets from its start up to its stop. -/
def Span.Covers (s : Span) (offset : Nat) : Prop :=
  s.start ≤ offset ∧ offset < s.stop

/-- A span of a token: it starts at the token's position, is not empty, and what it cuts out spells the token
and is scanned to it. -/
structure IsSpanOf (text : List Char) (t : Token) (s : Span) : Prop where
  start : s.start = t.position
  nonempty : s.start < s.stop
  slice : ∃ slice, s.Cuts text slice ∧ Spells slice t.kind t.text ∧
    Token.scan (String.ofList slice) = .ok [⟨t.kind, t.text, 0⟩]

/-- Spans of the tokens of a text, in order and apart from each other, that leave only blanks out. -/
structure Spans (text : List Char) (ts : List Token) (spans : List Span) : Prop where
  tokens : List.Forall₂ (IsSpanOf text) ts spans
  ordered : spans.Pairwise fun s s' => s.stop ≤ s'.start
  blank : ∀ before c after, text = before ++ c :: after → (∀ s ∈ spans, ¬ s.Covers (byteCount before)) →
    Text.isBlank c

/-- **A run of the scanner** after what was taken before: the tokens have spans in the whole text, which start
where the run starts or later, and what they leave out of the rest is blank. -/
theorem Scans.exists_spans {position : Nat} {cs : List Char} {ts : List Token} (h : Scans position cs ts)
    (taken : List Char) (htaken : byteCount taken = position) :
    ∃ spans, List.Forall₂ (IsSpanOf (taken ++ cs)) ts spans ∧
      (spans.Pairwise fun s s' => s.stop ≤ s'.start) ∧ (∀ s ∈ spans, position ≤ s.start) ∧
      ∀ before c after, cs = before ++ c :: after →
        (∀ s ∈ spans, ¬ s.Covers (position + byteCount before)) → Text.isBlank c := by
  induction h generalizing taken with
  | nil => exact ⟨[], .nil, .nil, nofun, fun before c after hnil => by simp at hnil⟩
  | @blank position b cs ts hblank _ ih =>
      obtain ⟨spans, htokens, hordered, hstart, hout⟩ := ih (taken ++ [b]) (by simp [htaken])
      rw [List.append_assoc, List.singleton_append] at htokens
      refine ⟨spans, htokens, hordered, fun s hs => Nat.le_of_add_right_le (hstart s hs), ?_⟩
      rintro (_ | ⟨b', before⟩) c after hcs hnot
      · obtain ⟨rfl, -⟩ := List.cons.inj hcs
        exact hblank
      · obtain ⟨rfl, hrest⟩ := List.cons.inj hcs
        refine hout before c after hrest ?_
        rwa [byteCount_cons, ← Nat.add_assoc] at hnot
  | @token position b ds rest l ts hblank hnext _ ih =>
      obtain ⟨spans, htokens, hordered, hstart, hout⟩ :=
        ih (taken ++ b :: ds) (by rw [byteCount_append, htaken])
      rw [List.append_assoc, List.cons_append] at htokens
      refine ⟨⟨position, position + byteCount (b :: ds)⟩ :: spans, .cons ⟨rfl, ?_, b :: ds, ?_, ?_, ?_⟩ htokens,
        List.pairwise_cons.2 ⟨hstart, hordered⟩, ?_, ?_⟩
      · exact Nat.lt_add_of_pos_right (byteCount_pos b ds)
      · exact ⟨taken, rest, by simp, htaken, by rw [byteCount_append, htaken]⟩
      · exact (taken_of_nextLexeme hnext).written.spells
      · exact scan_alone hblank hnext
      · exact List.forall_mem_cons.2 ⟨Nat.le_refl _, fun s hs => Nat.le_of_add_right_le (hstart s hs)⟩
      · intro before c after hcs hnot
        obtain ⟨hfirst, hrest⟩ := List.forall_mem_cons.1 hnot
        rw [← List.cons_append] at hcs
        rcases List.append_eq_append_iff.1 hcs with ⟨left, rfl, hleft⟩ | ⟨left, hleft, hafter⟩
        · refine hout left c after hleft ?_
          rwa [byteCount_append, ← Nat.add_assoc] at hrest
        · cases left with
          | nil =>
              rw [List.append_nil] at hleft
              refine hout [] c after (by simpa using hafter.symm) ?_
              rwa [← hleft] at hrest
          | cons d left =>
              -- The character is one of the token, which the first span covers.
              refine absurd ⟨Nat.le_add_right _ _, Nat.add_lt_add_left ?_ _⟩ hfirst
              rw [hleft, byteCount_append]
              exact Nat.lt_add_of_pos_right (byteCount_pos d left)

/-- **Nothing is lost in scanning.**  The tokens of a text have spans in it, none empty, in order and apart from
each other; what a span cuts out spells its token and determines it; all that no span covers is blank. -/
theorem scan_spans {formula : String} {ts : List Token} (h : Token.scan formula = .ok ts) :
    ∃ spans, Spans formula.toList ts spans := by
  obtain ⟨spans, htokens, hordered, -, hout⟩ := (scans_of_scanFrom h).exists_spans [] rfl
  refine ⟨spans, htokens, hordered, fun before c after htext hnot => hout before c after htext ?_⟩
  rwa [Nat.zero_add]

/-- `é`, a backslash and a quote in a string, a word that is an operator, and an operator of two characters. -/
theorem scan_spans_escaped :
    let formula := "Not 'é\\'' >=.5"
    let ts : List Token := [⟨.operator, "!", 0⟩, ⟨.string, "é'", 4⟩, ⟨.operator, ">=", 11⟩, ⟨.number, ".5", 13⟩]
    Token.scan formula = .ok ts ∧ ∃ spans, Spans formula.toList ts spans := by
  intro formula ts
  have hscan : Token.scan formula = .ok ts := by decide +kernel
  exact ⟨hscan, scan_spans hscan⟩

end Costing.Formula
