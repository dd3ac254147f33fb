import ErrorCatalog.Pattern
import ErrorCatalog.Register

/-!
# Conditions

The condition of a case decides whether a message matches and what is extracted
from it. A literal condition is the pattern that matches exactly its text.

- `Condition.compile?` compiles a condition;
- `Extraction.ofCaptures` classifies what the groups captured: parameters are
  positional, named, or a mixture of both, which no case accepts.
-/

namespace ErrorCatalog

/-- A condition as it is written in a definition. -/
inductive ConditionSpec where
  /-- The message contains a text. -/
  | literal (text : String)
  /-- A pattern matches somewhere in the message. -/
  | pattern (pattern : Pattern)

/-- A compiled condition. -/
structure Condition where
  pattern : Pattern

/-- What a condition extracts from a matching message. -/
inductive Extraction where
  | positional (texts : List String)
  | named (texts : Register String)
  | mixed
  deriving Repr, DecidableEq

namespace Extraction

/-- The captures of the named groups that took part in a match, by name. -/
def namedCaptures (names captures : List (Option String)) : Register String :=
  Register.ofList ((names.filterMap id).filterMap fun name =>
    (Pattern.namedCapture? names captures name).map fun text => (name, text))

/-- Classify what groups with some names captured. Parameters are positional if no group with a
name took part, and named if as many groups with a name took part as groups at all. -/
def ofCaptures (names captures : List (Option String)) : Extraction :=
  let positional := captures.filterMap id
  let named := namedCaptures names captures
  if named.isEmpty then .positional positional
  else if named.size = positional.length then .named named
  else .mixed

end Extraction

namespace Condition

/-- Compile a condition; a literal one can only be too large. -/
def compile? : ConditionSpec → Option Condition
  | .literal text => (Pattern.compile? (Pattern.escape text)).map fun pattern => ⟨pattern⟩
  | .pattern pattern => some ⟨pattern⟩

/-- Whether a message matches. -/
def isMatch (condition : Condition) (message : String) : Bool :=
  condition.pattern.isMatch message

/-- What is extracted from a message, if it matches. -/
def extract? (condition : Condition) (message : String) : Option Extraction :=
  (condition.pattern.captures? message).map
    (Extraction.ofCaptures condition.pattern.groupNames)

end Condition

end ErrorCatalog
