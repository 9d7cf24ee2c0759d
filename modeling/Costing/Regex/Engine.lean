/-!
# Regex — Engine

Patterns as texts.  What a pattern matches is left open: patterns are compiled by an engine, which is
given with the platform.
-/

namespace Costing.Regex

/-- What a pattern is compiled with. -/
structure Options where
  ignoreCase : Bool := false
  multiLine : Bool := false
  dotAll : Bool := false
deriving Repr, DecidableEq

/-- A compiled pattern. -/
structure Matcher where
  /-- Whether it matches somewhere in a text. -/
  isMatch : String → Bool
  /-- What the groups took of the first match in a text, by number; group zero is all of it. -/
  captures? : String → Option (Nat → Option String)
  /-- A text with the first match, or every match, replaced by a template. -/
  replace : (every : Bool) → (text template : String) → String
  /-- What the matches leave of a text. -/
  split : String → List String

/-- What compiles patterns. -/
class Engine where
  /-- The matcher of a pattern, if the text is one. -/
  compile? : Options → String → Option Matcher

export Engine (compile?)

end Costing.Regex
