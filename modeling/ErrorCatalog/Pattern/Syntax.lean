/-!
# Syntax of patterns

The syntax tree of a pattern, close to its text: groups, flags and character
classes are kept as written.
-/

namespace ErrorCatalog

namespace Pattern

/-- The flags of a pattern. -/
inductive Flag where
  /-- Letters match without regard to case. -/
  | ignoreCase
  /-- Line boundaries hold at the ends of every line. -/
  | multiLine
  /-- The dot matches line ends too. -/
  | dotAll
  /-- Repetitions are lazy unless marked. -/
  | swapGreed
  /-- Classes contain characters outside ASCII. -/
  | unicode
  /-- Carriage returns end lines too. -/
  | crlf
  /-- Blanks and comments in the pattern are ignored. -/
  | ignoreBlanks
  deriving Repr, DecidableEq

/-- Flags to switch on and off, as written. -/
structure FlagChange where
  on : List Flag
  off : List Flag
  deriving Repr, DecidableEq

/-- What the change says about a flag, if anything. -/
def FlagChange.state? (change : FlagChange) (flag : Flag) : Option Bool :=
  if change.on.contains flag then some true
  else if change.off.contains flag then some false
  else none

/-- The classes with a letter of their own. -/
inductive LetterClass where
  | digit
  | space
  | word
  deriving Repr, DecidableEq

/-- The named classes of ASCII characters. -/
inductive AsciiClass where
  | alnum | alpha | ascii | blank | cntrl | digit | graph | lower | print | punct | space
  | upper | word | xdigit
  deriving Repr, DecidableEq

/-- How a class of characters is named by a property. -/
inductive PropertyQuery where
  /-- A category, script or binary property. -/
  | named (name : String)
  /-- A property with its value. -/
  | valued (property value : String)
  deriving Repr, DecidableEq

/-- One character of a pattern. -/
structure Literal where
  char : Char
  /-- Whether it was written as one byte. -/
  isByte : Bool
  deriving Repr, DecidableEq

/-- Operators between the parts of a bracketed class. -/
inductive ClassOperator where
  | inter
  | diff
  | symmDiff
  deriving Repr, DecidableEq

/-- The content of a bracketed class. -/
inductive ClassSyntax where
  | empty
  | char (literal : Literal)
  | range (first last : Literal)
  | ascii (negated : Bool) (name : AsciiClass)
  | letter (negated : Bool) (name : LetterClass)
  | property (negated : Bool) (query : PropertyQuery)
  | bracketed (negated : Bool) (content : ClassSyntax)
  | union (items : List ClassSyntax)
  | combined (operator : ClassOperator) (left right : ClassSyntax)
  deriving Repr

/-- Boundaries as written; what some of them mean depends on the flags. -/
inductive BoundarySyntax where
  | caret
  | dollar
  | textStart
  | textEnd
  | word
  | notWord
  | wordStart
  | wordEnd
  | wordStartHalf
  | wordEndHalf
  deriving Repr, DecidableEq

/-- The kinds of groups. -/
inductive GroupSyntax where
  /-- A group that captures, with its index and perhaps a name. -/
  | capture (index : Nat) (name : Option String)
  /-- A group that does not capture and changes flags inside. -/
  | plain (flags : FlagChange)
  deriving Repr, DecidableEq

/-- Patterns as written. -/
inductive Syntax where
  | empty
  | flags (change : FlagChange)
  | char (literal : Literal)
  | dot
  | boundary (boundary : BoundarySyntax)
  | letter (negated : Bool) (name : LetterClass)
  | property (negated : Bool) (query : PropertyQuery)
  | bracketed (negated : Bool) (content : ClassSyntax)
  | repeated (least : Nat) (most : Option Nat) (greedy : Bool) (body : Syntax)
  | group (kind : GroupSyntax) (body : Syntax)
  | concat (items : List Syntax)
  | alternatives (branches : List Syntax)
  deriving Repr

namespace ClassSyntax

/-- The content with the given items. -/
def ofItems : List ClassSyntax → ClassSyntax
  | [] => .empty
  | [item] => item
  | items => .union items

mutual

/-- How deeply bracketed classes, unions and operators are nested. -/
def depth : ClassSyntax → Nat
  | .bracketed _ content => content.depth + 1
  | .union items => depthOfItems items + 1
  | .combined _ left right => max left.depth right.depth + 1
  | _ => 0

/-- The greatest depth of some items. -/
def depthOfItems : List ClassSyntax → Nat
  | [] => 0
  | item :: rest => max item.depth (depthOfItems rest)

end

end ClassSyntax

namespace Syntax

/-- The concatenation of some items. -/
def ofItems : List Syntax → Syntax
  | [] => .empty
  | [item] => item
  | items => .concat items

/-- The choice between some branches. -/
def ofBranches : List Syntax → Syntax
  | [] => .empty
  | [branch] => branch
  | branches => .alternatives branches

mutual

/-- How deeply compound patterns are nested. -/
def depth : Syntax → Nat
  | .bracketed _ content => content.depth + 1
  | .repeated _ _ _ body => body.depth + 1
  | .group _ body => body.depth + 1
  | .concat items => depthOfItems items + 1
  | .alternatives branches => depthOfItems branches + 1
  | _ => 0

/-- The greatest depth of some patterns. -/
def depthOfItems : List Syntax → Nat
  | [] => 0
  | item :: rest => max item.depth (depthOfItems rest)

end

end Syntax

end Pattern

end ErrorCatalog
