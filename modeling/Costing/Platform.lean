import Costing.Json.Codec
import Costing.Price.Tier
import Costing.Regex.Engine

/-!
# Platform

What the library leaves to the outside: the texts of documents, the matching of patterns and the bits
of NaNs.
-/

namespace Costing

/-- The codec, the engine and the machine that formulas are evaluated on. -/
class Platform extends Json.Codec, Regex.Engine, Machine

end Costing
