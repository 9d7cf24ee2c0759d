import Costing.Formula.Builtin.Arguments
import Costing.Regex.Engine
import Costing.Text.Search

/-!
# Formula — Pattern functions

Matching, extracting and replacing by regular expressions.  Flags are the letters `g`, `i`, `m`, `s`
and `u`, each at most once.
-/

namespace Costing.Formula.Builtin

/-- What the flags of a pattern ask for. -/
structure PatternFlags where
  options : Regex.Options := {}
  /-- Every match, not the first alone. -/
  every : Bool := false

/-- Reads flags one by one, `seen` holding those before. -/
def readFlags (all : String) (flags : PatternFlags) (seen : List Char) :
    List Char → Except PatternFault PatternFlags
  | [] => .ok flags
  | c :: cs =>
    if seen.contains c then .error (.repeatedFlag c all)
    else
      let go (flags : PatternFlags) := readFlags all flags (c :: seen) cs
      match c with
      | 'g' => go { flags with every := true }
      | 'i' => go { flags with options.ignoreCase := true }
      | 'm' => go { flags with options.multiLine := true }
      | 's' => go { flags with options.dotAll := true }
      | 'u' => go flags
      | c => .error (.unsupportedFlag c all)

section

variable [Regex.Engine]

/-- The matcher of a pattern with flags, and whether every match is meant. -/
def compilePattern (pattern flags : String) : Except Fault (Regex.Matcher × Bool) :=
  match readFlags flags {} [] flags.toList with
  | .error fault => .error (.pattern fault)
  | .ok read =>
    match Regex.compile? read.options pattern with
    | some matcher => .ok (matcher, read.every)
    | none => .error (.pattern .rejected)

variable [Json.Codec]

/-- The text and the matcher that `regexMatch` and `regexExtract` are given. -/
def patternArguments (args : Arguments) : Except Fault (String × Regex.Matcher) := do
  let flags := ((args.given? 2).map Value.toText).getD ""
  let (matcher, _) ← compilePattern (args.nth 1).toText flags
  return ((args.nth 0).toText, matcher)

/-- `regexMatch(value, pattern, flags?)`. -/
def applyRegexMatch (args : Arguments) : Outcome := do
  let (text, matcher) ← patternArguments args
  return .bool (matcher.isMatch text)

/-- The first group of the first match, or the whole of it where that group took no part. -/
def extract? (matcher : Regex.Matcher) (text : String) : Option String :=
  (matcher.captures? text).bind fun group => (group 1).or (group 0)

/-- `regexExtract(value, pattern, flags?)`; null without a match. -/
def applyRegexExtract (args : Arguments) : Outcome := do
  let (text, matcher) ← patternArguments args
  return .ofString? (extract? matcher text)

/-- `replace(value, search, replacement, flags?)`: without flags the search text stands for itself. -/
def applyReplace (args : Arguments) : Outcome :=
  let text := (args.nth 0).toText
  let search := (args.nth 1).toText
  let replacement := (args.nth 2).toText
  match args.given? 3 with
  | none => .ok (.string (Text.replaceAll text search replacement))
  | some flags => do
    let (matcher, every) ← compilePattern search flags.toText
    return .string (matcher.replace every text replacement)

end

end Costing.Formula.Builtin
