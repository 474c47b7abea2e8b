import TagRules.Text.CharSet

/-!
# Ranges of bytes

A character is encoded in one to four bytes. A set of characters falls into sequences of ranges of
bytes: the texts that take one byte out of each range of a sequence are the encodings of a range of
characters.

* `CharSet.byteRanges`: the sequences of a set, in ascending order.
-/

namespace TagRules

/-- The bytes that encode a code point. -/
def utf8Bytes (n : Nat) : List Nat :=
  if n < 0x80 then [n]
  else if n < 0x800 then [0xC0 + n / 64, 0x80 + n % 64]
  else if n < 0x10000 then [0xE0 + n / 4096, 0x80 + n / 64 % 64, 0x80 + n % 64]
  else [0xF0 + n / 262144, 0x80 + n / 4096 % 64, 0x80 + n / 64 % 64, 0x80 + n % 64]

namespace CharSet

/-- The characters that are encoded in equally many bytes; the surrogates are left out. -/
def byteRegions : List (Nat × Nat) :=
  [(0, 0x7F), (0x80, 0x7FF), (0x800, 0xD7FF), (0xE000, 0xFFFF), (0x10000, lastCodePoint)]

/-- The sizes of the blocks of characters whose last byte, last two and last three bytes take all
values. -/
def blockSizes : List Nat := [64, 4096, 262144]

/-- Cuts a range where whole blocks of the sizes begin and end, unless it lies in one block. -/
def cutBlocks : List Nat → Nat → Nat → List (Nat × Nat)
  | [], lo, hi => [(lo, hi)]
  | size :: sizes, lo, hi =>
    if lo / size = hi / size then [(lo, hi)]
    else
      let first := (lo + size - 1) / size * size
      let last := (hi + 1) / size * size
      (if lo < first then [(lo, first - 1)] else []) ++
        (if first < last then cutBlocks sizes first (last - 1) else []) ++
        if last ≤ hi then [(last, hi)] else []

/-- The ranges of bytes for a range of characters, one region at a time. -/
def rangeBytes (lo hi : Nat) : List (List (Nat × Nat)) :=
  byteRegions.flatMap fun (a, b) =>
    let lo := max a lo
    let hi := min b hi
    if hi < lo then []
    else
      let parts := if hi < 0x80 then [(lo, hi)] else cutBlocks blockSizes lo hi
      parts.map fun (lo, hi) => (utf8Bytes lo).zip (utf8Bytes hi)

/-- The ranges of bytes for a set of characters. -/
def byteRanges (s : CharSet) : List (List (Nat × Nat)) :=
  s.ranges.flatMap fun (lo, hi) => rangeBytes lo hi

end CharSet

end TagRules
