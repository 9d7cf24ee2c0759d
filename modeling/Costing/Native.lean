import Costing.Json.Reader
import Costing.Json.Writer
import Costing.Platform
import Costing.Regex.Replacement

/-!
# Native

The platform that programs run on: documents with correctly rounded numbers, patterns compiled to
automata, and a machine that gives an operation on numbers without a result the NaN below all numbers.
-/

namespace Costing

/-- A program as a matcher. -/
def Regex.Program.matcher (p : Regex.Program) : Regex.Matcher where
  isMatch := p.isMatch
  captures? := p.captures?
  replace := p.replace
  split := p.pieces

namespace Native

/-- The matcher of a pattern. -/
def compile? (options : Regex.Options) (pattern : String) : Option Regex.Matcher :=
  let flags : Regex.Flags :=
    { ignoreCase := options.ignoreCase
      multiLine := options.multiLine
      dotAll := options.dotAll }
  (Regex.Program.read? flags pattern).map Regex.Program.matcher

/-- The quiet NaN of a sign, with no further bits. -/
def quiet (negative : Bool) : Number.NaN :=
  ⟨negative, 1 <<< 51, by decide, by decide⟩

/-- A NaN that is handed in has no sign; a product of numbers that is no number has one. -/
def nans (quantity : Float) (tiers : List PriceTier) (tier : Nat) : Quote.NaNs :=
  let invalid (t : PriceTier) : Bool :=
    !(Number.larger quantity t.quantityFrom).isNaN && !t.price.isNaN
  { total := quiet (tiers[tier]?.any invalid)
    unitPrice := quiet false
    billed := quiet false }

/-- The native platform, where it is open. -/
scoped instance platform : Platform where
  read? := Json.readText?
  compact := Json.line
  pretty := Json.lines
  compile? := Native.compile?
  nans := Native.nans

end Native

end Costing
