import ErrorCatalog.Unicode.CharSet

/-!
# Encoded sets

The characters of a set as sequences of bytes in UTF-8. A sequence is a list of
byte ranges; it stands for all texts with one byte from each of them. The
sequences of a set are sorted, and a tree joins those that begin alike.
-/

namespace ErrorCatalog

namespace Pattern

/-- A closed range of bytes. -/
structure ByteRange where
  first : Nat
  last : Nat
  deriving Repr, DecidableEq

namespace Encoding

/-- Cut a range of code points into pieces which end in full blocks: below the first bits
that differ, a piece of `levels` groups of six bits holds all values. -/
def pieces : Nat → Nat → Nat → List (Nat × Nat)
  | 0, first, last => [(first, last)]
  | levels + 1, first, last =>
      let block := Nat.pow 64 (levels + 1)
      if first / block = last / block then pieces levels first last
      else
        let start := (first + block - 1) / block * block
        let stop := (last + 1) / block * block
        (if first < start then pieces levels first (start - 1) else []) ++
          (if start < stop then [(start, stop - 1)] else []) ++
          (if stop ≤ last then pieces levels stop last else [])

/-- Characters whose encodings have one length. -/
structure Band where
  low : Nat
  high : Nat
  /-- The number of bytes after the first one. -/
  levels : Nat
  /-- What the first byte is, apart from the leading bits of the code point. -/
  mark : Nat

/-- The bands in order. -/
def bands : List Band :=
  [⟨0, 0x7F, 0, 0⟩, ⟨0x80, 0x7FF, 1, 0xC0⟩, ⟨0x800, 0xD7FF, 2, 0xE0⟩,
    ⟨0xE000, 0xFFFF, 2, 0xE0⟩, ⟨0x10000, CharSet.top, 3, 0xF0⟩]

/-- The bytes of a code point: the leading bits with a mark, then groups of six bits. -/
def bytes (mark : Nat) : Nat → Nat → List Nat
  | 0, code => [mark + code]
  | levels + 1, code => bytes mark levels (code / 64) ++ [0x80 + code % 64]

/-- The byte sequences of a range of code points. -/
def sequences (range : Nat × Nat) : List (List ByteRange) :=
  bands.flatMap fun band =>
    let first := max band.low range.1
    let last := min band.high range.2
    if first ≤ last then
      (pieces band.levels first last).map fun piece =>
        (bytes band.mark band.levels piece.1).zipWith ByteRange.mk
          (bytes band.mark band.levels piece.2)
    else []

end Encoding

end Pattern

/-- The byte sequences of the characters of a set, in order. -/
def CharSet.sequences (set : CharSet) : List (List Pattern.ByteRange) :=
  set.ranges.toList.flatMap Pattern.Encoding.sequences

namespace Pattern

/-- A tree of byte sequences: below each branch hangs what may follow its bytes. -/
inductive ByteTree where
  | nil
  | branch (range : ByteRange) (inside : ByteTree) (rest : ByteTree)
  deriving Repr

namespace ByteTree

/-- Put a sequence before all others of a tree; it joins the first branch if that has the same
bytes. -/
def cons : List ByteRange → ByteTree → ByteTree
  | [], tree => tree
  | range :: more, .nil => .branch range (cons more .nil) .nil
  | range :: more, .branch first inside rest =>
      if first = range then .branch first (cons more inside) rest
      else .branch range (cons more .nil) (.branch first inside rest)

/-- The tree of sorted sequences. -/
def ofSequences (sequences : List (List ByteRange)) : ByteTree := sequences.foldr cons .nil

/-- Whether nothing hangs in the tree. -/
def isEmpty : ByteTree → Bool
  | .nil => true
  | .branch .. => false

end ByteTree

end Pattern

end ErrorCatalog
