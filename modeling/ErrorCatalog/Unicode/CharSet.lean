import ErrorCatalog.Hexadecimal

/-!
# Sets of characters

A set of characters is a sorted list of disjoint ranges of code points, kept in
an array so that membership is a binary search. `CharSet.listed` reads the
written form in which the tables of character properties are kept.
-/

namespace ErrorCatalog

/-- A set of characters, as sorted, disjoint and non-adjacent closed ranges of code points. -/
structure CharSet where
  /-- The ranges, in increasing order. -/
  ranges : Array (Nat × Nat)
  deriving Repr, DecidableEq, Inhabited

namespace CharSet

/-- The greatest code point. -/
def top : Nat := 0x10FFFF

/-- The set without characters. -/
def empty : CharSet := ⟨#[]⟩

/-- The set of all characters. -/
def all : CharSet := ⟨#[(0, 0xD7FF), (0xE000, top)]⟩

/-- Whether no code point is in the set. -/
def isEmpty (set : CharSet) : Bool := set.ranges.isEmpty

/-- Search a code point between two positions of sorted ranges, in at most `fuel` halvings. -/
def search (ranges : Array (Nat × Nat)) (code : Nat) : Nat → Nat → Nat → Bool
  | 0, _, _ => false
  | fuel + 1, low, high =>
      if low < high then
        let middle := (low + high) / 2
        match ranges[middle]? with
        | none => false
        | some (first, last) =>
            if code < first then search ranges code fuel low middle
            else if last < code then search ranges code fuel (middle + 1) high
            else true
      else false

/-- Whether a code point is in the set. -/
def containsCode (set : CharSet) (code : Nat) : Bool :=
  search set.ranges code (set.ranges.size + 1) 0 set.ranges.size

/-- Whether a character is in the set. -/
def contains (set : CharSet) (c : Char) : Bool := set.containsCode c.toNat

/-- Join overlapping and adjacent ranges of a sorted list, starting from an open range. -/
def join (first last : Nat) : List (Nat × Nat) → List (Nat × Nat)
  | [] => [(first, last)]
  | range :: rest =>
      if range.1 ≤ last + 1 then join first (max last range.2) rest
      else (first, last) :: join range.1 range.2 rest

/-- The set of the code points in some range of a list; reversed ranges are empty. -/
def ofRanges (ranges : List (Nat × Nat)) : CharSet :=
  match (ranges.filter fun range => range.1 ≤ range.2).mergeSort fun a b => a.1 ≤ b.1 with
  | [] => empty
  | range :: rest => ⟨(join range.1 range.2 rest).toArray⟩

/-- The set of one character. -/
def single (c : Char) : CharSet := ⟨#[(c.toNat, c.toNat)]⟩

/-- The characters of either set. -/
def union (left right : CharSet) : CharSet :=
  if left.isEmpty then right
  else if right.isEmpty then left
  else ofRanges (left.ranges.toList ++ right.ranges.toList)

/-- The gaps of sorted ranges from `next` up to the greatest code point. -/
def gaps (next : Nat) : List (Nat × Nat) → List (Nat × Nat)
  | [] => if next ≤ top then [(next, top)] else []
  | range :: rest =>
      if next < range.1 then (next, range.1 - 1) :: gaps (range.2 + 1) rest
      else gaps (range.2 + 1) rest

/-- The code points that are no characters: they belong to another encoding. -/
def surrogates : Nat × Nat := (0xD800, 0xDFFF)

/-- The characters outside the set. -/
def complement (set : CharSet) : CharSet :=
  ⟨(gaps 0 (ofRanges (surrogates :: set.ranges.toList)).ranges.toList).toArray⟩

/-- The characters of both sets. -/
def inter (left right : CharSet) : CharSet :=
  (left.complement.union right.complement).complement

/-- The characters of the first set that are not in the second. -/
def diff (left right : CharSet) : CharSet := left.inter right.complement

/-- The characters of exactly one of the sets. -/
def symmDiff (left right : CharSet) : CharSet := (left.diff right).union (right.diff left)

/-- The union of a list of sets. -/
def unions (sets : List CharSet) : CharSet :=
  ofRanges (sets.flatMap fun set => set.ranges.toList)

/-- Whether every character of the set is an ASCII character. -/
def isAscii (set : CharSet) : Bool :=
  match set.ranges.back? with
  | none => true
  | some range => range.2 < 128

/-- The only code point of a set of one. -/
def only? (set : CharSet) : Option Nat :=
  if set.ranges.size = 1 then
    set.ranges[0]?.bind fun range => if range.1 = range.2 then some range.1 else none
  else none

/-- Read hexadecimal digits onto a number, up to the first other character. -/
def readHex (value : Nat) : List Char → Nat × List Char
  | [] => (value, [])
  | c :: rest =>
      match Hexadecimal.digit? c with
      | some digit => readHex (value * 16 + digit) rest
      | none => (value, c :: rest)

/-- The ranges of one written item: `41`, `41..5A`, or `100..12E/2` for every second one from
the first to the last. -/
def itemRanges (item : List Char) : List (Nat × Nat) :=
  let first := readHex 0 item
  match first.2 with
  | '.' :: '.' :: rest =>
      let last := readHex 0 rest
      if last.2.isEmpty then [(first.1, last.1)]
      else
        let stride := (readHex 0 (last.2.drop 1)).1
        (List.range ((last.1 - first.1) / stride + 1)).map fun step =>
          (first.1 + stride * step, first.1 + stride * step)
  | _ => [(first.1, first.1)]

/-- Split a text at its blanks and line ends. -/
def items : List Char → List (List Char)
  | [] => [[]]
  | c :: rest =>
      if c = ' ' ∨ c = '\n' then [] :: items rest
      else
        match items rest with
        | [] => [[c]]
        | item :: others => (c :: item) :: others

/-- The set written as hexadecimal code points and ranges, between blanks or line ends. -/
def listed (text : String) : CharSet :=
  ofRanges (((items text.toList).filter fun item => ¬ item.isEmpty).flatMap itemRanges)

end CharSet

end ErrorCatalog
