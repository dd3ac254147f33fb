import ErrorCatalog.Hexadecimal
import ErrorCatalog.Pattern.Cursor
import ErrorCatalog.Pattern.Syntax

/-!
# Reading escapes

An escape starts with a backslash and stands for a character, a class of
characters or a condition on the place of a match. Octal escapes and references
to groups do not exist.

Blanks and comments can be ignored between all signs of a pattern, even inside
an escape.
-/

namespace ErrorCatalog

namespace Pattern

namespace Reader

/-- Skip blanks and comments; a comment runs to the end of its line. -/
def skipBlanks : Bool → List Char → List Char
  | _, [] => []
  | true, c :: rest => skipBlanks (c ≠ '\n') rest
  | false, c :: rest =>
      if spaceSet.contains c then skipBlanks false rest
      else if c = '#' then skipBlanks true rest
      else c :: rest

/-- Skip blanks and comments where they are ignored. -/
def skip (ignoring : Bool) (input : List Char) : List Char :=
  if ignoring then skipBlanks false input else input

/-- Remove a text from the front. -/
def after? (word : List Char) (input : List Char) : Option (List Char) :=
  if word.isPrefixOf input then some (input.drop word.length) else none

/-- The characters with a meaning of their own in patterns. -/
def isMeta (c : Char) : Bool :=
  ['\\', '.', '+', '*', '?', '(', ')', '|', '[', ']', '\x7b', '\x7d', '^', '$', '#', '&', '-',
    '~'].contains c

/-- The ASCII characters that stand for themselves after a backslash. -/
def isEscapable (c : Char) : Bool :=
  isMeta c || (c.toNat < 128 && !c.isAlphanum && c != '<' && c != '>')

/-- Exactly `count` hexadecimal digits. -/
def hexDigits? (ignoring : Bool) (value : Nat) : Nat → List Char → Option (Nat × List Char)
  | 0, input => some (value, input)
  | count + 1, c :: rest => do
      let digit ← Hexadecimal.digit? c
      hexDigits? ignoring (value * 16 + digit) count (skip ignoring rest)
  | _ + 1, [] => none

/-- Hexadecimal digits up to a closing brace, in at most `fuel` steps. The number of digits
comes with the value. -/
def bracedHex? (ignoring : Bool) (value count : Nat) :
    Nat → List Char → Option (Nat × Nat × List Char)
  | 0, _ => none
  | _ + 1, [] => none
  | fuel + 1, c :: rest =>
      if c = '\x7d' then some (value, count, skip ignoring rest)
      else do
        let digit ← Hexadecimal.digit? c
        bracedHex? ignoring (value * 16 + digit) (count + 1) fuel (skip ignoring rest)

/-- The character of a hexadecimal escape after its letter, which has `width` digits unless
they are in braces. -/
def hexEscape? (ignoring : Bool) (width : Nat) (input : List Char) :
    Option (Literal × List Char) := do
  match skip ignoring input with
  | '\x7b' :: rest =>
      let (code, count, rest) ← bracedHex? ignoring 0 0 (rest.length + 1) (skip ignoring rest)
      if count = 0 then none
      return (⟨← Hexadecimal.charOf? code, false⟩, rest)
  | rest =>
      let (code, rest) ← hexDigits? ignoring 0 width rest
      return (⟨← Hexadecimal.charOf? code, width = 2⟩, rest)

/-- The characters up to a closing brace, in at most `fuel` steps. -/
def bracedName? (ignoring : Bool) (read : List Char) :
    Nat → List Char → Option (List Char × List Char)
  | 0, _ => none
  | _ + 1, [] => none
  | fuel + 1, c :: rest =>
      if c = '\x7d' then some (read.reverse, rest)
      else bracedName? ignoring (c :: read) fuel (skip ignoring rest)

/-- Split at the first occurrence of a separator. -/
def splitAt? (separator : List Char) : List Char → Option (List Char × List Char)
  | [] => none
  | c :: rest =>
      match after? separator (c :: rest) with
      | some tail => some ([], tail)
      | none => (splitAt? separator rest).map fun parts => (c :: parts.1, parts.2)

/-- The query written between braces: `name`, `name=value` or `name:value`, or `name!=value`,
which asks for all other characters. -/
def queryOf (name : List Char) : Bool × PropertyQuery :=
  match splitAt? ['!', '='] name with
  | some (property, value) => (true, .valued (String.ofList property) (String.ofList value))
  | none =>
      match (splitAt? [':'] name).or (splitAt? ['='] name) with
      | some (property, value) => (false, .valued (String.ofList property) (String.ofList value))
      | none => (false, .named (String.ofList name))

/-- The query of a property class after its letter, and whether it is negated. -/
def query? (ignoring : Bool) (input : List Char) :
    Option ((Bool × PropertyQuery) × List Char) := do
  match skip ignoring input with
  | [] => none
  | c :: rest =>
      if c = '\x7b' then
        let (name, rest) ← bracedName? ignoring [] (rest.length + 1) (skip ignoring rest)
        return (queryOf name, rest)
      else if c = '\\' then none
      else return ((false, .named c.toString), skip ignoring rest)

/-- The characters of a special word boundary. -/
def isBoundaryLetter (c : Char) : Bool := c.isAlpha || c == '-'

/-- The letters of a special word boundary, in at most `fuel` steps. -/
def boundaryLetters (ignoring : Bool) (read : List Char) :
    Nat → List Char → List Char × List Char
  | fuel + 1, c :: rest =>
      if isBoundaryLetter c then boundaryLetters ignoring (c :: read) fuel (skip ignoring rest)
      else (read.reverse, c :: rest)
  | _, rest => (read.reverse, rest)

/-- A word boundary after its letter. A brace with a letter or hyphen in it names a special
boundary, any other brace is left to a repetition. -/
def wordBoundary? (ignoring : Bool) (input : List Char) :
    Option (BoundarySyntax × List Char) :=
  match input with
  | '\x7b' :: afterBrace =>
      match skip ignoring afterBrace with
      | [] => none
      | c :: rest =>
          if isBoundaryLetter c then
            match boundaryLetters ignoring [] (rest.length + 1) (c :: rest) with
            | (name, '\x7d' :: rest) =>
                if name = "start".toList then some (.wordStart, rest)
                else if name = "end".toList then some (.wordEnd, rest)
                else if name = "start-half".toList then some (.wordStartHalf, rest)
                else if name = "end-half".toList then some (.wordEndHalf, rest)
                else none
            | _ => none
          else some (.word, input)
  | rest => some (.word, rest)

/-- What one escape or plain character stands for. -/
inductive Primitive where
  | char (literal : Literal)
  | boundary (boundary : BoundarySyntax)
  | letter (negated : Bool) (name : LetterClass)
  | property (negated : Bool) (query : PropertyQuery)

/-- A property class after its letter, which may negate the query once more. -/
def Primitive.property? (ignoring negated : Bool) (input : List Char) :
    Option (Primitive × List Char) :=
  (query? ignoring input).map fun ((excluding, query), rest) =>
    (.property (negated != excluding) query, rest)

/-- A literal character that was not written as a byte. -/
def Primitive.plain (c : Char) : Primitive := .char ⟨c, false⟩

/-- The controls that have a letter of their own. -/
def control? (c : Char) : Option Char :=
  if c = 'a' then some (Char.ofNat 7)
  else if c = 'f' then some (Char.ofNat 12)
  else if c = 't' then some '\t'
  else if c = 'n' then some '\n'
  else if c = 'r' then some '\r'
  else if c = 'v' then some (Char.ofNat 11)
  else none

/-- An escape after its backslash. -/
def escape? (ignoring : Bool) : List Char → Option (Primitive × List Char)
  | [] => none
  | c :: rest =>
      if isEscapable c then some (.plain c, rest)
      else if c = 'x' then (hexEscape? ignoring 2 rest).map fun hex => (.char hex.1, hex.2)
      else if c = 'u' then (hexEscape? ignoring 4 rest).map fun hex => (.char hex.1, hex.2)
      else if c = 'U' then (hexEscape? ignoring 8 rest).map fun hex => (.char hex.1, hex.2)
      else if c = 'p' then Primitive.property? ignoring false rest
      else if c = 'P' then Primitive.property? ignoring true rest
      else if c = 'd' then some (.letter false .digit, rest)
      else if c = 'D' then some (.letter true .digit, rest)
      else if c = 's' then some (.letter false .space, rest)
      else if c = 'S' then some (.letter true .space, rest)
      else if c = 'w' then some (.letter false .word, rest)
      else if c = 'W' then some (.letter true .word, rest)
      else if c = 'A' then some (.boundary .textStart, rest)
      else if c = 'z' then some (.boundary .textEnd, rest)
      else if c = 'b' then
        (wordBoundary? ignoring rest).map fun boundary => (.boundary boundary.1, boundary.2)
      else if c = 'B' then some (.boundary .notWord, rest)
      else if c = '<' then some (.boundary .wordStart, rest)
      else if c = '>' then some (.boundary .wordEnd, rest)
      else (control? c).map fun control => (.plain control, rest)

end Reader

end Pattern

end ErrorCatalog
