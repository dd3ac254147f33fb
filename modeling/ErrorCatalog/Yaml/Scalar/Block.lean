import ErrorCatalog.Yaml.Position

/-!
# Block scalars

A block scalar is a block of indented lines. A literal one keeps its line ends,
in a folded one a line end between two lines of text stands for a blank. The
header says what becomes of the line ends after the last line, and may give the
indentation, which else is that of the first line.
-/

namespace ErrorCatalog

namespace Yaml

namespace Block

/-- What becomes of the line ends after the last line. -/
inductive Chomping where
  /-- None is kept. -/
  | strip
  /-- The first one is kept. -/
  | clip
  /-- All are kept. -/
  | keep

/-- The chomping that a header sign asks for. -/
def chomping? : Char → Option Chomping
  | '-' => some .strip
  | '+' => some .keep
  | _ => none

/-- The indentation that a header digit gives; zero is none. -/
def increment? (c : Char) : Option Nat :=
  if '1' ≤ c ∧ c ≤ '9' then some (c.toNat - '0'.toNat) else none

/-- What a header says. -/
structure Header where
  /-- What becomes of the line ends after the last line. -/
  chomping : Chomping := .clip
  /-- The indentation relative to the surrounding block. -/
  increment : Option Nat := none
  /-- The number of signs that are written. -/
  size : Nat := 0

/-- Read the optional sign and digit of a header, in either order. -/
def header : List Char → Header
  | [] => {}
  | c :: rest =>
      match chomping? c, increment? c with
      | some chomping, _ =>
          match rest.head?.bind increment? with
          | some increment => ⟨chomping, some increment, 2⟩
          | none => ⟨chomping, none, 1⟩
      | none, some increment =>
          match rest.head?.bind chomping? with
          | some chomping => ⟨chomping, some increment, 2⟩
          | none => ⟨.clip, some increment, 1⟩
      | none, none => {}

/-- Go on over spaces, as far as a given column if the indentation is known. -/
def skipSpaces (limit : Option Nat) (position : Position) : Position :=
  let spaces := (position.rest.takeWhile fun c => c = ' ').length
  position.skip (match limit with
    | some limit => min spaces (limit - position.column)
    | none => spaces)

/-- What is read of the empty lines before a line of text. -/
structure Breaks where
  breaks : List Char
  widest : Nat
  /-- The place in front of the next line's text. -/
  position : Position

/-- Read empty lines and the indentation of the next line, in at most `fuel` lines. A tab must
not stand where the indentation belongs. -/
def breaks? (limit : Option Nat) : Nat → Nat → Position → Option Breaks
  | 0, _, _ => none
  | fuel + 1, widest, position =>
      let position := skipSpaces limit position
      let widest := max widest position.column
      match position.rest with
      | [] => some ⟨[], widest, position⟩
      | c :: _ =>
          if c = '\t' ∧ (limit.all fun limit => position.column < limit) then none
          else if isBreak c then do
            let more ← breaks? limit fuel widest position.nextLine
            return { more with breaks := c :: more.breaks }
          else some ⟨[], widest, position⟩

/-- The text of a block and the line ends after it. -/
structure Reading where
  text : List Char := []
  lineEnd : List Char := []
  more : List Char := []
  /-- Whether the last line starts with a blank. -/
  indented : Bool := false
  position : Position

/-- The text for the line ends between two lines. In a folded block they are folded, unless one
of the lines starts with a blank. -/
def joint (folded : Bool) (reading : Reading) (indented : Bool) : List Char :=
  if folded ∧ reading.lineEnd = ['\n'] ∧ ¬ reading.indented ∧ ¬ indented then
    if reading.more.isEmpty then [' '] else reading.more
  else reading.lineEnd ++ reading.more

/-- Read the lines of a block, at most `fuel` of them. -/
def lines? (folded : Bool) (indent : Nat) : Nat → Reading → Option Reading
  | 0, _ => none
  | fuel + 1, reading =>
      let position := reading.position
      match position.rest with
      | [] => some reading
      | c :: _ =>
          if position.column ≠ indent then some reading
          else do
            let indented := isBlank c
            let line := position.rest.takeWhile fun c => ¬ isBreak c
            let lineEnd := (position.rest.drop line.length).take 1
            let after := position.skip line.length
            let next := if lineEnd.isEmpty then after else after.nextLine
            let breaks ← breaks? (some indent) fuel 0 next
            lines? folded indent fuel {
              text := (joint folded reading indented ++ line).reverse ++ reading.text
              lineEnd := lineEnd
              more := breaks.breaks
              indented := indented
              position := breaks.position }

/-- The line ends that are kept after the last line. -/
def chomped (reading : Reading) : Chomping → List Char
  | .strip => []
  | .clip => reading.lineEnd
  | .keep => reading.lineEnd ++ reading.more

/-- Read a block scalar of at most `fuel` lines from its indicator on, inside a block of a given
indentation, which is negative at the top. -/
def read? (folded : Bool) (parent : Int) (fuel : Nat) (position : Position) :
    Option (String × Position) := do
  let header := header (position.rest.drop 1)
  let after := ((position.skip (header.size + 1)).skipBlanks).skipComment
  if ¬ breakNext after.rest then none
  let start := if after.rest.isEmpty then after else after.nextLine
  let limit := header.increment.map fun increment => (max parent 0).toNat + increment
  let leading ← breaks? limit fuel 0 start
  let indent := limit.getD (max (max leading.widest (parent + 1).toNat) 1)
  let reading ← lines? folded indent fuel
    { more := leading.breaks, position := leading.position }
  return (String.ofList (reading.text.reverse ++ chomped reading header.chomping),
    reading.position)

end Block

end Yaml

end ErrorCatalog
