import ErrorCatalog.Pattern.Reader
import ErrorCatalog.Pattern.Meaning
import ErrorCatalog.Pattern.Size
import ErrorCatalog.Pattern.Program

/-!
# Patterns

A pattern is a regular expression. Its groups are numbered from 1 by their
opening parentheses, and some have names, which are all different.

- `Pattern.compile?` reads and compiles the text of a pattern;
- `Pattern.captures?` lists what the groups captured in the leftmost match;
- `Pattern.escape` writes a text as the pattern that matches this text only.
-/

namespace ErrorCatalog

/-- A compiled pattern. -/
structure Pattern where
  text : String
  /-- The names of the groups in order, as far as they have any. -/
  groupNames : List (Option String)
  node : Pattern.Node
  /-- No two groups have the same name. -/
  distinct : (groupNames.filterMap id).Nodup

namespace Pattern

/-- Compile the text of a pattern, unless it is malformed or too large. -/
def compile? (text : String) : Option Pattern := do
  let (written, names) ← Reader.syntax? text.toList
  let (expression, _) ← written.expression? {}
  if ¬ expression.fits then none
  else if distinct : (names.filterMap id).Nodup then
    return ⟨text, names, (expression.toNode 0).1, distinct⟩
  else none

/-- The spans of the groups in the leftmost match of a message. -/
def spans? (pattern : Pattern) (message : String) : Option (List Span) :=
  pattern.node.search? message.toList

/-- Whether the pattern matches somewhere in a message. -/
def isMatch (pattern : Pattern) (message : String) : Bool := (pattern.spans? message).isSome

/-- The text that the group of an index captured, if it took part in a match. A group that was
entered several times captured what it consumed last. -/
def captured? (spans : List Span) (index : Nat) : Option String :=
  (spans.find? fun span => span.group == index).map Span.content

/-- What the groups captured in the leftmost match, in order, if there is a match. -/
def captures? (pattern : Pattern) (message : String) : Option (List (Option String)) :=
  (pattern.spans? message).map fun spans =>
    (List.range' 1 pattern.groupNames.length).map (captured? spans)

/-- What the group of a name captured, given the names of all groups and what they captured. -/
def namedCapture? (names captures : List (Option String)) (name : String) : Option String :=
  (names.idxOf? (some name)).bind fun index => captures[index]?.join

/-- A character with a backslash before it if it has a meaning of its own. -/
def escapeChar (c : Char) : List Char := if Reader.isMeta c then ['\\', c] else [c]

/-- The pattern that matches exactly a text. -/
def escape (text : String) : String := String.ofList (text.toList.flatMap escapeChar)

end Pattern

end ErrorCatalog
