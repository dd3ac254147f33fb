import ErrorCatalog.Unicode.Property

/-!
# Cursors and boundaries

A cursor is a place in a text. A boundary is a condition on a place that
consumes nothing: the ends of the text or of a line, and the edges of words.
-/

namespace ErrorCatalog

namespace Pattern

/-- The characters of words: letters, marks, decimal digits, connectors and joiners. -/
def wordSet : CharSet :=
  CharSet.unions [Property.alphabetic.set, Category.unionSet [.mn, .mc, .me, .nd, .pc],
    Property.joinControl.set]

/-- The decimal digits. -/
def digitSet : CharSet := Category.set .nd

/-- The blanks. -/
def spaceSet : CharSet := Property.whiteSpace.set

/-- The ASCII characters of words. -/
def asciiWordSet : CharSet := CharSet.listed "30..39 41..5A 5F 61..7A"

/-- A place in a text: the character before it, the rest, and its index. -/
structure Cursor where
  before : Option Char
  rest : List Char
  /-- The number of characters before the place. -/
  index : Nat
  deriving Repr

/-- Boundaries between characters. -/
inductive Boundary where
  | textStart
  | textEnd
  | lineStart
  | lineEnd
  /-- A line start where a carriage return also ends a line. -/
  | lineStartCrlf
  /-- A line end where a carriage return also ends a line. -/
  | lineEndCrlf
  | word (ascii : Bool)
  | notWord (ascii : Bool)
  | wordStart (ascii : Bool)
  | wordEnd (ascii : Bool)
  /-- A place without a word character before it. -/
  | wordStartHalf (ascii : Bool)
  /-- A place without a word character after it. -/
  | wordEndHalf (ascii : Bool)
  deriving Repr, DecidableEq

namespace Cursor

/-- The start of a text. -/
def start (text : List Char) : Cursor := ⟨none, text, 0⟩

/-- Step over a text that comes next. -/
def over? : List Char → Cursor → Option Cursor
  | [], cursor => some cursor
  | c :: more, cursor =>
      match cursor.rest with
      | [] => none
      | next :: rest => if next = c then over? more ⟨some c, rest, cursor.index + 1⟩ else none

/-- Step over one character of a set. -/
def overOne? (set : CharSet) (cursor : Cursor) : Option Cursor :=
  match cursor.rest with
  | [] => none
  | next :: rest => if set.contains next then some ⟨some next, rest, cursor.index + 1⟩ else none

/-- Whether an optional character belongs to a word. -/
def isWord (ascii : Bool) : Option Char → Bool
  | none => false
  | some c => if ascii then asciiWordSet.contains c else wordSet.contains c

/-- Whether a boundary holds at a place. -/
def satisfies (cursor : Cursor) : Boundary → Bool
  | .textStart => cursor.before.isNone
  | .textEnd => cursor.rest.isEmpty
  | .lineStart => cursor.before.isNone || cursor.before == some '\n'
  | .lineEnd => cursor.rest.isEmpty || cursor.rest.head? == some '\n'
  | .lineStartCrlf =>
      cursor.before.isNone || cursor.before == some '\n' ||
        (cursor.before == some '\r' && cursor.rest.head? != some '\n')
  | .lineEndCrlf =>
      cursor.rest.isEmpty || cursor.rest.head? == some '\r' ||
        (cursor.rest.head? == some '\n' && cursor.before != some '\r')
  | .word ascii => isWord ascii cursor.before != isWord ascii cursor.rest.head?
  | .notWord ascii => isWord ascii cursor.before == isWord ascii cursor.rest.head?
  | .wordStart ascii => !isWord ascii cursor.before && isWord ascii cursor.rest.head?
  | .wordEnd ascii => isWord ascii cursor.before && !isWord ascii cursor.rest.head?
  | .wordStartHalf ascii => !isWord ascii cursor.before
  | .wordEndHalf ascii => !isWord ascii cursor.rest.head?

end Cursor

end Pattern

end ErrorCatalog
