import ErrorCatalog.Value.Text
import ErrorCatalog.Unicode.Property
import ErrorCatalog.Unicode.Successor

/-!
# Outlines

An outline is a text for the eye of a developer. It names the kind of every
value and quotes strings so that each character can be told from any other.
-/

namespace ErrorCatalog

namespace Outline

/-- The categories whose characters have no visible form of their own; a blank is visible. -/
def invisibleCategories : List Category := [.cc, .cf, .co, .cn, .zl, .zp, .zs]

/-- Marks with a width of their own, which extend the character before them all the same. -/
def wideMarks : CharSet := CharSet.listed "FF9E..FF9F"

/-- The characters that are written by their code: they are invisible, or they would merge with
the character before them. -/
def codedSet : CharSet :=
  (CharSet.unions (invisibleCategories.map Category.set)).diff
      ((CharSet.single ' ').union Successor.visible)
    |>.union Property.defaultIgnorable.set
    |>.union (Property.graphemeExtend.set.diff wideMarks)

/-- A character inside a quoted string. -/
def escaped (c : Char) : List Char :=
  if c = '"' then ['\\', '"']
  else if c = '\\' then ['\\', '\\']
  else if c = '\n' then ['\\', 'n']
  else if c = '\r' then ['\\', 'r']
  else if c = '\t' then ['\\', 't']
  else if c.toNat = 0 then ['\\', '0']
  else if ' ' ≤ c ∧ c ≤ '~' then [c]
  else if codedSet.contains c then
    ['\\', 'u', '\x7b'] ++ Nat.toDigits 16 c.toNat ++ ['\x7d']
  else [c]

/-- A string in quotes. -/
def quoted (text : String) : String :=
  String.ofList ('"' :: text.toList.flatMap escaped ++ ['"'])

/-- Texts between brackets, separated by commas. -/
def listed (items : List String) : String := "[" ++ String.intercalate ", " items ++ "]"

/-- Named texts between braces, separated by commas. -/
def mapped (entries : List (String × String)) : String :=
  "\x7b" ++ String.intercalate ", " (entries.map fun entry => quoted entry.1 ++ ": " ++ entry.2) ++
    "\x7d"

/-- A text in parentheses after a name. -/
def wrapped (name content : String) : String := name ++ "(" ++ content ++ ")"

end Outline

namespace Value

mutual

/-- The outline of a value. -/
def outline : Value → String
  | .null => "Null"
  | .bool value => Outline.wrapped "Bool" (if value then "true" else "false")
  | .number value => Outline.wrapped "Number" value.text
  | .string value => Outline.wrapped "String" (Outline.quoted value)
  | .array items => "Array " ++ Outline.listed (outlineItems items)
  | .object fields => "Object " ++ Outline.mapped (outlineFields fields)

/-- The outlines of the items of an array. -/
def outlineItems : List Value → List String
  | [] => []
  | item :: rest => outline item :: outlineItems rest

/-- The outlines of the fields of an object. -/
def outlineFields : List (String × Value) → List (String × String)
  | [] => []
  | (name, value) :: rest => (name, outline value) :: outlineFields rest

end

end Value

end ErrorCatalog
