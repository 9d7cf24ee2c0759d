import Costing.Json.Basic

/-!
# Json — Codec

Documents as texts.  How a text is read and how a document is written is left open: what reads or
writes documents does so by a codec, which is given with the platform.
-/

namespace Costing.Json

/-- What reads and writes the texts of documents. -/
class Codec where
  /-- The document that a text writes; text that is no document gives nothing. -/
  read? : String → Option Json
  /-- The text of a document on one line. -/
  compact : Json → String
  /-- The text of a document with its parts on lines of their own. -/
  pretty : Json → String

export Codec (read? compact pretty)

end Costing.Json
