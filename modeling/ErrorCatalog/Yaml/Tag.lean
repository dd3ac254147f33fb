import ErrorCatalog.Hexadecimal
import ErrorCatalog.Yaml.Position

/-!
# Tags

A tag is written as a handle and a suffix, or in full between angle brackets.
The handle stands for a prefix, which a directive at the start of the document
can set. What a tag names is a list of bytes, since any bytes can be written
with percent signs, as long as they start and go on like characters in UTF-8.
-/

namespace ErrorCatalog

namespace Yaml

/-- A tag: the bytes that name a type. -/
structure Tag where
  bytes : List UInt8
  deriving Repr, DecidableEq

/-- A tag as it is written. -/
structure TagToken where
  /-- The handle; it is empty when the suffix is the full tag. -/
  handle : String
  suffix : List UInt8
  deriving Repr, DecidableEq

namespace Tag

/-- The tag of a text. -/
def ofText (text : String) : Tag := ⟨text.toUTF8.data.toList⟩

/-- The prefix of the tags that the format defines. -/
def standard : String := "tag:yaml.org,2002:"

/-- The tag of null. -/
def null : Tag := ofText (standard ++ "null")

/-- The tag of booleans. -/
def bool : Tag := ofText (standard ++ "bool")

/-- The tag of integers. -/
def int : Tag := ofText (standard ++ "int")

/-- The tag of floating-point numbers. -/
def float : Tag := ofText (standard ++ "float")

/-- Whether a tag starts with an exclamation mark. -/
def isMarked (tag : Tag) : Bool := tag.bytes.head? = some '!'.toUInt8

/-- Whether a tag belongs to one application only: it is marked, and it is a text. -/
def isLocal (tag : Tag) : Bool :=
  tag.isMarked && (String.fromUTF8? tag.bytes.toByteArray).isSome

/-- The prefixes of the handles that need no directive. -/
def defaultPrefixes : List (String × List UInt8) :=
  [("!", (ofText "!").bytes), ("!!", (ofText standard).bytes)]

/-- Whether a character may stand in a tag, in a full one or else in a suffix. -/
def isTagChar (full : Bool) (c : Char) : Bool :=
  isWordChar c || ";/?:@&=+$.%!~*'()".toList.contains c || (full && [',', '[', ']'].contains c)

/-- The byte that is written with a percent sign and two hexadecimal digits. -/
def byte? : List Char → Option Nat
  | '%' :: high :: low :: _ => Hexadecimal.value? [high, low]
  | _ => none

/-- The number of bytes of a character, by the first one of them. -/
def byteCount? (byte : Nat) : Option Nat :=
  if byte < 0x80 then some 1
  else if 0xC0 ≤ byte ∧ byte < 0xE0 then some 2
  else if 0xE0 ≤ byte ∧ byte < 0xF0 then some 3
  else if 0xF0 ≤ byte ∧ byte < 0xF8 then some 4
  else none

/-- Read some further bytes of a character. -/
def furtherBytes? : Nat → List Char → Option (List UInt8)
  | 0, _ => some []
  | count + 1, input => do
      let byte ← byte? input
      if byte / 64 ≠ 2 then none
      return byte.toUInt8 :: (← furtherBytes? count (input.drop 3))

/-- The bytes of a character that is written by its bytes. -/
def escape? (input : List Char) : Option (List UInt8) := do
  let byte ← byte? input
  let count ← byteCount? byte
  return byte.toUInt8 :: (← furtherBytes? (count - 1) (input.drop 3))

/-- Read a part of a tag after the bytes of it that are already read, in at most `fuel` steps. -/
def part? (full : Bool) : Nat → List UInt8 → Position → Option (List UInt8 × Position)
  | 0, _, _ => none
  | fuel + 1, read, position =>
      match position.rest with
      | [] => some (read, position)
      | c :: _ =>
          if ¬ isTagChar full c then some (read, position)
          else if c = '%' then do
            let escaped ← escape? position.rest
            part? full fuel (read ++ escaped) (position.skip (3 * escaped.length))
          else part? full fuel (read ++ String.utf8EncodeChar c) (position.skip 1)

/-- A handle: an exclamation mark, or two of them around a word. A single mark may be followed by
a word that belongs to the suffix. -/
def handle? (position : Position) : Option (List Char × Position) :=
  match position.rest with
  | '!' :: rest =>
      let word := rest.takeWhile isWordChar
      let after := position.skip (word.length + 1)
      if after.rest.head? = some '!' then some ('!' :: (word ++ ['!']), after.skip 1)
      else some ('!' :: word, after)
  | _ => none

/-- Whether a handle has a mark at both ends. -/
def isClosed (handle : List Char) : Bool := 1 < handle.length && handle.getLast? = some '!'

/-- Read a tag without what follows it, in at most `fuel` steps. A lone exclamation mark is the
full tag. -/
def tag? (fuel : Nat) (position : Position) : Option (TagToken × Position) :=
  if position.rest.take 2 = ['!', '<'] then do
    let (suffix, after) ← part? true fuel [] (position.skip 2)
    if suffix.isEmpty ∨ after.rest.head? ≠ some '>' then none
    return (⟨"", suffix⟩, after.skip 1)
  else do
    let (handle, after) ← handle? position
    if isClosed handle then
      let (suffix, after) ← part? false fuel [] after
      if suffix.isEmpty then none
      return (⟨String.ofList handle, suffix⟩, after)
    else
      let start := (handle.drop 1).flatMap String.utf8EncodeChar
      let (suffix, after) ← part? false fuel start after
      return (if suffix.isEmpty then ⟨"", (ofText "!").bytes⟩ else ⟨"!", suffix⟩, after)

/-- Read a tag, which must be followed by a blank, a line end or, within brackets, a comma. -/
def read? (flow : Bool) (fuel : Nat) (position : Position) : Option (TagToken × Position) := do
  let (tag, after) ← tag? fuel position
  if blankNext after.rest ∨ (flow ∧ after.rest.head? = some ',') then some (tag, after) else none

/-- The bytes before the first zero. -/
def beforeZero (bytes : List UInt8) : List UInt8 := bytes.takeWhile (· ≠ 0)

/-- The full tag, if its handle has a prefix. Of both parts the bytes before the first zero
count. -/
def resolve? (prefixes : List (String × List UInt8)) (tag : TagToken) : Option Tag :=
  if tag.handle.isEmpty then some ⟨beforeZero tag.suffix⟩
  else
    (prefixes.find? fun entry => entry.1 = tag.handle).map fun entry =>
      ⟨beforeZero entry.2 ++ beforeZero tag.suffix⟩

end Tag

end Yaml

end ErrorCatalog
