import ErrorCatalog.Yaml.Scalar
import ErrorCatalog.Yaml.Tag

/-!
# Tokens

The signs and words of a document. Where indentation structures the document,
there are tokens for the start and the end of each block.
-/

namespace ErrorCatalog

namespace Yaml

/-- An instruction in front of a document. -/
inductive Directive where
  /-- The version of the format. -/
  | version (major minor : Nat)
  /-- What a tag handle stands for. -/
  | tagPrefix (handle : String) (start : List UInt8)
  deriving Repr, DecidableEq

/-- A token of a document. -/
inductive Token where
  | directive (directive : Directive)
  | documentStart
  | documentEnd
  | blockSequenceStart
  | blockMappingStart
  | blockEnd
  | flowSequenceStart
  | flowSequenceEnd
  | flowMappingStart
  | flowMappingEnd
  /-- The start of an item of a block sequence. -/
  | blockEntry
  /-- What separates the items of a flow collection. -/
  | flowEntry
  /-- The start of a key; it is not written when the key is short. -/
  | key
  /-- The start of a value. -/
  | value
  | alias (name : String)
  | anchor (name : String)
  | tag (tag : TagToken)
  | scalar (text : String) (style : ScalarStyle)
  deriving Repr, DecidableEq

namespace Directive

/-- The blanks and the comment after a directive up to the end of the line. -/
def finish? (position : Position) : Option Position :=
  let after := position.skipBlanks.skipComment
  if after.rest.isEmpty then some after
  else if breakNext after.rest then some after.nextLine
  else none

/-- A number of at most nine digits. -/
def number? (position : Position) : Option (Nat × Position) :=
  let digits := position.rest.takeWhile Char.isDigit
  if digits.isEmpty ∨ 9 < digits.length then none
  else
    some (digits.foldl (fun sum c => sum * 10 + (c.toNat - '0'.toNat)) 0,
      position.skip digits.length)

/-- Read the two numbers of a version. -/
def version? (position : Position) : Option (Directive × Position) := do
  let (major, after) ← number? position.skipBlanks
  if after.rest.head? ≠ some '.' then none
  let (minor, after) ← number? (after.skip 1)
  return (.version major minor, after)

/-- Read a handle and what it stands for, in at most `fuel` steps. -/
def tagPrefix? (fuel : Nat) (position : Position) : Option (Directive × Position) := do
  let (handle, after) ← Tag.handle? position.skipBlanks
  if handle ≠ ['!'] ∧ ¬ Tag.isClosed handle then none
  if ¬ after.rest.head?.any isBlank then none
  let (start, after) ← Tag.part? true fuel [] after.skipBlanks
  if start.isEmpty ∨ ¬ blankNext after.rest then none
  return (.tagPrefix (String.ofList handle) start, after)

/-- Read a directive from its percent sign on, in at most `fuel` steps. -/
def read? (fuel : Nat) (position : Position) : Option (Directive × Position) := do
  let name := (position.rest.drop 1).takeWhile isWordChar
  let after := position.skip (name.length + 1)
  if ¬ blankNext after.rest then none
  let (directive, after) ← match String.ofList name with
    | "YAML" => version? after
    | "TAG" => tagPrefix? fuel after
    | _ => none
  return (directive, ← finish? after)

end Directive

end Yaml

end ErrorCatalog
