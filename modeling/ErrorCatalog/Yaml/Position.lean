/-!
# Places in a document

A document is read as a list of characters whose line ends are written in one
way. A position is the list of the characters that follow, with their line and
column, and with the number of bytes before them on the line.

- `Yaml.characters?` takes the characters of a text, if they may all stand in a
  document;
- `Yaml.Position.gap?` reads the blanks and line ends between two words.
-/

namespace ErrorCatalog

namespace Yaml

/-- Whether a character may stand in a document. -/
def isAllowed (c : Char) : Bool :=
  c = '\t' || c = '\n' || c = '\r' || c = '\u0085' || (' ' ≤ c && c ≤ '~') ||
    ('\u00a0' ≤ c && c ≤ '\ufffd') || 0x10000 ≤ c.toNat

/-- Write carriage returns, alone or before a line feed, and next-line characters as line
feeds. -/
def unifyBreaks : List Char → List Char
  | [] => []
  | '\r' :: '\n' :: rest => '\n' :: unifyBreaks rest
  | c :: rest => (if c = '\r' ∨ c = '\u0085' then '\n' else c) :: unifyBreaks rest

/-- The characters of a text with unified line ends, if they may all stand in a document. -/
def characters? (text : String) : Option (List Char) :=
  if text.toList.all isAllowed then some (unifyBreaks text.toList) else none

/-- Whether a character is a blank. -/
def isBlank (c : Char) : Bool := c = ' ' || c = '\t'

/-- Whether a character ends a line. -/
def isBreak (c : Char) : Bool := c = '\n' || c = '\u2028' || c = '\u2029'

/-- Whether a blank, a line end or the end of the document comes next. -/
def blankNext : List Char → Bool
  | [] => true
  | c :: _ => isBlank c || isBreak c

/-- Whether a line end or the end of the document comes next. -/
def breakNext : List Char → Bool
  | [] => true
  | c :: _ => isBreak c

/-- Whether a character may stand in an anchor or in a tag handle. -/
def isWordChar (c : Char) : Bool := c.isAlphanum || c = '_' || c = '-'

/-- A place in a document. -/
structure Position where
  rest : List Char
  line : Nat := 0
  /-- The number of characters before on the same line. -/
  column : Nat := 0
  /-- The number of bytes of these characters in UTF-8. -/
  width : Nat := 0

namespace Position

/-- Go on by some characters of the line. -/
def skip (position : Position) (count : Nat) : Position :=
  { position with
    rest := position.rest.drop count
    column := position.column + count
    width := (position.rest.take count).foldl (fun width c => width + c.utf8Size) position.width }

/-- Go on over the characters of a class on the line. -/
def skipWhile (position : Position) (inClass : Char → Bool) : Position :=
  position.skip (position.rest.takeWhile inClass).length

/-- Go on over a line end. -/
def nextLine (position : Position) : Position :=
  { rest := position.rest.drop 1, line := position.line + 1 }

/-- Go on over the blanks of the line. -/
def skipBlanks (position : Position) : Position := position.skipWhile isBlank

/-- Go on over a comment, if one comes next, up to the end of the line. -/
def skipComment (position : Position) : Position :=
  if position.rest.head? = some '#' then position.skipWhile fun c => ¬ isBreak c else position

/-- Whether three marks stand alone at the start of the line. -/
def marks (position : Position) (mark : Char) : Bool :=
  position.column = 0 && position.rest.take 3 = [mark, mark, mark] &&
    blankNext (position.rest.drop 3)

/-- Whether the end or the start of a document is marked here. -/
def marksDocument (position : Position) : Bool := position.marks '-' || position.marks '.'

/-- What separates two words of a scalar. -/
structure Gap where
  text : List Char := []
  /-- Whether there is a line end in it. -/
  broken : Bool := false

/-- A single line end stands for a blank, and of more than one the first is dropped. -/
def foldBreaks : List Char → List Char
  | ['\n'] => [' ']
  | '\n' :: more => more
  | breaks => breaks

/-- Read line ends and the blanks around them from the start of a line or the end of one on, with
no tab before a given column. -/
def breaks? (minimum line column : Nat) : List Char → Option (List Char × Position)
  | [] => some ([], ⟨[], line, column, column⟩)
  | c :: rest =>
      if isBreak c then do
        let (breaks, position) ← breaks? minimum (line + 1) 0 rest
        return (c :: breaks, position)
      else if isBlank c then
        if c = '\t' ∧ column < minimum then none else breaks? minimum line (column + 1) rest
      else some ([], ⟨c :: rest, line, column, column⟩)

/-- Read the blanks and line ends up to the next word, with no tab before a given column of a
new line. -/
def gap? (position : Position) (minimum : Nat) : Option (Gap × Position) := do
  let blanks := position.rest.takeWhile isBlank
  let after := position.skip blanks.length
  if after.rest.isEmpty ∨ ¬ breakNext after.rest then
    return ({ text := blanks }, after)
  let (breaks, after) ← breaks? minimum after.line after.column after.rest
  return ({ text := foldBreaks breaks, broken := true }, after)

end Position

end Yaml

end ErrorCatalog
