import Costing.Text.Ranges

/-!
# Text — Utf8

Characters as the bytes that encode them.  A range of characters falls into ranges whose encodings are
all sequences of bytes from given ranges, one for each place.
-/

namespace Costing.Text.Utf8

/-- The bytes that encode a code point. -/
def encode (n : Nat) : List Nat :=
  let tail (shift : Nat) := 0x80 + n / shift % 64
  if n < 0x80 then [n]
  else if n < 0x800 then [0xC0 + n / 64, tail 1]
  else if n < 0x10000 then [0xE0 + n / 4096, tail 64, tail 1]
  else [0xF0 + n / 262144, tail 4096, tail 64, tail 1]

/-- The code points that take one, two, three and four bytes, without surrogates. -/
def encoded : List Range :=
  [⟨0, 0x7F⟩, ⟨0x80, 0x7FF⟩, ⟨0x800, 0xD7FF⟩, ⟨0xE000, 0xFFFF⟩, ⟨0x10000, 0x10FFFF⟩]

/-- Cuts a range where it leaves a block of `size` code points, unless it stays in one; what lies
between is cut by blocks of 64 times that size, as many times as `sizes` says. -/
def align (sizes size : Nat) (range : Range) : List Range :=
  match sizes with
  | 0 => [range]
  | sizes + 1 =>
    if range.first / size = range.last / size then [range]
    else
      let first := (range.first + size - 1) / size * size
      let stop := (range.last + 1) / size * size
      (if range.first < first then [⟨range.first, first - 1⟩] else []) ++
        (if first < stop then align sizes (size * 64) ⟨first, stop - 1⟩ else []) ++
        (if stop ≤ range.last then [⟨stop, range.last⟩] else [])

/-- The ranges of a range that are each encoded byte by byte. -/
def parts (range : Range) : List Range :=
  encoded.flatMap fun block =>
    let first := max range.first block.first
    let last := min range.last block.last
    if last < first then []
    else if last < 0x80 then [⟨first, last⟩]
    else align 3 64 ⟨first, last⟩

/-- The sequences of byte ranges that encode the characters of a range. -/
def sequences (range : Range) : List (List Range) :=
  (parts range).map fun part => (encode part.first).zipWith Range.mk (encode part.last)

end Costing.Text.Utf8
