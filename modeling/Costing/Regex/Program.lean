import Costing.Regex.Reader

/-!
# Regex — Program

Regular expressions as instructions of an automaton.  A program is built from its end: each part is
compiled in front of the instruction that follows it.  Of the two ways on from a `fork` the first is
preferred.
-/

namespace Costing.Regex

/-- An instruction; `next` and the like are places in the program. -/
inductive Instruction where
  | take (set : Array Text.Range) (next : Nat)
  | fork (first second : Nat)
  | check (condition : Look) (next : Nat)
  | mark (slot : Nat) (next : Nat)
  | accept
deriving Repr, Inhabited

/-- Instructions that are already placed. -/
abbrev Code := Array Instruction

namespace Code

/-- Adds an instruction at the end, and gives its place. -/
def emit (code : Code) (i : Instruction) : Nat × Code :=
  (code.size, code.push i)

/-- A fork that prefers `inner` when greedy. -/
def forkTo (greedy : Bool) (inner next : Nat) : Instruction :=
  if greedy then .fork inner next else .fork next inner

/-- Some copies of a part in front of `next`. -/
def copies (part : Nat → Code → Nat × Code) : Nat → Nat → Code → Nat × Code
  | 0, next, code => (next, code)
  | n + 1, next, code =>
    let (start, code) := part next code
    copies part n start code

/-- Up to some copies of a part in front of `after`, which leads to `next`; each may be left out
together with those after it. -/
def optional (part : Nat → Code → Nat × Code) (greedy : Bool) (next : Nat) :
    Nat → Nat → Code → Nat × Code
  | 0, after, code => (after, code)
  | n + 1, after, code =>
    let (start, code) := part after code
    let (after, code) := code.emit (forkTo greedy start next)
    optional part greedy next n after code

/-- Some characters one after another in front of `next`, the last given first. -/
def literal : List Char → Nat → Code → Nat × Code
  | [], next, code => (next, code)
  | c :: before, next, code =>
    let (next, code) := code.emit (.take #[⟨c.toNat, c.toNat⟩] next)
    literal before next code

/-- A part once or more in front of `next`. -/
def loop (part : Nat → Code → Nat × Code) (greedy : Bool) (next : Nat) (code : Code) :
    Nat × Nat × Code :=
  let (again, code) := code.emit .accept
  let (start, code) := part again code
  (start, again, code.setIfInBounds again (forkTo greedy start next))

end Code

mutual

/-- The instructions of an expression in front of `next`, and where they start. -/
def compile : Regex → Nat → Code → Nat × Code
  | empty, next, code => (next, code)
  | literal cs, next, code => Code.literal cs.reverse next code
  | chars set, next, code => code.emit (.take set.toArray next)
  | look condition, next, code => code.emit (.check condition next)
  | seq parts, next, code => compileSeq parts next code
  | alt choices, next, code => compileAlt choices next code
  | group index r, next, code =>
    let (close, code) := code.emit (.mark (2 * index + 1) next)
    let (start, code) := compile r close code
    code.emit (.mark (2 * index) start)
  | rep r min max greedy, next, code =>
    let part := compile r
    match max with
    | some max =>
      let (start, code) := Code.optional part greedy next (max - min) next code
      Code.copies part min start code
    | none =>
      let (start, again, code) := Code.loop part greedy next code
      if min = 0 then
        if r.nullable then code.emit (Code.forkTo greedy start next) else (again, code)
      else Code.copies part (min - 1) start code

/-- The instructions of parts after each other. -/
def compileSeq : List Regex → Nat → Code → Nat × Code
  | [], next, code => (next, code)
  | r :: rest, next, code =>
    let (next, code) := compileSeq rest next code
    compile r next code

/-- The instructions of choices, the first preferred. -/
def compileAlt : List Regex → Nat → Code → Nat × Code
  | [], next, code => code.emit (.take #[] next)
  | [r], next, code => compile r next code
  | r :: rest, next, code =>
    let (second, code) := compileAlt rest next code
    let (first, code) := compile r next code
    code.emit (.fork first second)

end

/-- A compiled pattern. -/
structure Program where
  code : Code
  start : Nat
  /-- The names of capture groups with their indices. -/
  names : List (String × Nat)

/-- The program that marks the whole match as group zero. -/
def Program.ofRegex (r : Regex) (names : List (String × Nat)) : Program :=
  let (last, code) := Code.emit #[] .accept
  let (start, code) := compile (.group 0 r) last code
  ⟨code, start, names⟩

/-- The program of a pattern, if the text is one. -/
def Program.read? (flags : Flags) (pattern : String) : Option Program :=
  (Regex.read? flags pattern).map fun (r, names) => .ofRegex r names

end Costing.Regex
