import ErrorCatalog.Pattern.Syntax
import ErrorCatalog.Pattern.Cursor
import ErrorCatalog.Unicode.Age
import ErrorCatalog.Unicode.CaseOrbit
import ErrorCatalog.Unicode.Script
import ErrorCatalog.Unicode.Segmentation

/-!
# Character classes

The set of characters that a class of a pattern stands for. Without Unicode a
class may contain ASCII characters only, so that negated classes do not exist.
When case is ignored, a class is closed under case before it is negated.
-/

namespace ErrorCatalog

namespace Pattern

/-- The flags in force at some place of a pattern. -/
structure Flags where
  ignoreCase : Bool := false
  multiLine : Bool := false
  dotAll : Bool := false
  swapGreed : Bool := false
  unicode : Bool := true
  crlf : Bool := false
  deriving Repr, DecidableEq

/-- The flags after a change. -/
def Flags.apply (flags : Flags) (change : FlagChange) : Flags where
  ignoreCase := (change.state? .ignoreCase).getD flags.ignoreCase
  multiLine := (change.state? .multiLine).getD flags.multiLine
  dotAll := (change.state? .dotAll).getD flags.dotAll
  swapGreed := (change.state? .swapGreed).getD flags.swapGreed
  unicode := (change.state? .unicode).getD flags.unicode
  crlf := (change.state? .crlf).getD flags.crlf

namespace CharClass

/-- The lower-case ASCII characters of a name without blanks, underscores and hyphens. -/
def looseChars (name : List Char) : List Char :=
  (name.filter fun c => c.toNat < 128 && c != ' ' && c != '_' && c != '-').map Char.toLower

/-- The loose form of a property name: `is` in front does not count, unless the name is the
abbreviation `isc`. -/
def looseName (name : String) : String :=
  match name.toList with
  | first :: second :: rest =>
      if first.toLower = 'i' ∧ second.toLower = 's' then
        let loose := looseChars rest
        if loose = ['c'] then "isc" else String.ofList loose
      else String.ofList (looseChars (first :: second :: rest))
  | short => String.ofList (looseChars short)

/-- The characters of a category, or of a group of categories, with a loose name. -/
def categorySet? (name : String) : Option CharSet :=
  if name = "any" then some CharSet.all
  else if name = "ascii" then some (CharSet.listed "0..7F")
  else if name = "assigned" then some (Category.set .cn).complement
  else (Category.group? name).map fun categories => CharSet.unions (categories.map Category.set)

/-- Names that mean a category although they also abbreviate a property. -/
def categoryFirst : List String := ["cf", "sc", "lc"]

/-- The characters that a property query stands for. -/
def querySet? : PropertyQuery → Option CharSet
  | .named name =>
      let loose := looseName name
      let property := if categoryFirst.contains loose then none else Property.named? loose
      match property with
      | some property => some property.set
      | none =>
          match categorySet? loose with
          | some set => some set
          | none => (Script.named? loose).map Script.set
  | .valued property value =>
      let loose := looseName value
      match looseName property with
      | "gc" | "generalcategory" => categorySet? loose
      | "sc" | "script" => (Script.named? loose).map Script.set
      | "scx" | "scriptextensions" => (Script.named? loose).map Script.extensions
      | "age" => Version.characters? loose
      | "gcb" | "graphemeclusterbreak" =>
          (Property.find? loose Segmentation.graphemeClasses).map Property.set
      | "wb" | "wordbreak" => (Property.find? loose Segmentation.wordClasses).map Property.set
      | "sb" | "sentencebreak" =>
          (Property.find? loose Segmentation.sentenceClasses).map Property.set
      | _ => none

/-- The characters of a letter class. -/
def letterSet (unicode : Bool) : LetterClass → CharSet
  | .digit => if unicode then digitSet else CharSet.listed "30..39"
  | .space => if unicode then spaceSet else CharSet.listed "9..D 20"
  | .word => if unicode then wordSet else asciiWordSet

/-- The characters of a named ASCII class. -/
def asciiSet : AsciiClass → CharSet
  | .alnum => CharSet.listed "30..39 41..5A 61..7A"
  | .alpha => CharSet.listed "41..5A 61..7A"
  | .ascii => CharSet.listed "0..7F"
  | .blank => CharSet.listed "9 20"
  | .cntrl => CharSet.listed "0..1F 7F"
  | .digit => CharSet.listed "30..39"
  | .graph => CharSet.listed "21..7E"
  | .lower => CharSet.listed "61..7A"
  | .print => CharSet.listed "20..7E"
  | .punct => CharSet.listed "21..2F 3A..40 5B..60 7B..7E"
  | .space => CharSet.listed "9..D 20"
  | .upper => CharSet.listed "41..5A"
  | .word => asciiWordSet
  | .xdigit => CharSet.listed "30..39 41..46 61..66"

/-- A set closed under case where case is ignored. -/
def closed (flags : Flags) (set : CharSet) : CharSet :=
  if flags.ignoreCase then
    if flags.unicode then set.closeCase else set.closeAsciiCase
  else set

/-- A set, unless it goes beyond ASCII where it must not. -/
def admitted? (flags : Flags) (set : CharSet) : Option CharSet :=
  if ¬ flags.unicode ∧ ¬ set.isAscii then none else some set

/-- A set, negated if asked for. -/
def negatedIf (negated : Bool) (set : CharSet) : CharSet :=
  if negated then set.complement else set

/-- A set closed under case and then negated if asked for. -/
def finished? (flags : Flags) (negated : Bool) (set : CharSet) : Option CharSet :=
  admitted? flags (negatedIf negated (closed flags set))

/-- The characters of a letter class, negated if asked for. -/
def letter? (flags : Flags) (negated : Bool) (name : LetterClass) : Option CharSet :=
  admitted? flags (negatedIf negated (letterSet flags.unicode name))

/-- The characters of a property class, which exist with Unicode only. -/
def property? (flags : Flags) (negated : Bool) (query : PropertyQuery) : Option CharSet :=
  if flags.unicode then (querySet? query).bind (finished? flags negated) else none

/-- The code point of a literal inside a class. -/
def literalCode? (flags : Flags) (literal : Literal) : Option Nat :=
  if flags.unicode ∨ literal.char.toNat < 128 then some literal.char.toNat else none

/-- Combine two sets. -/
def combine : ClassOperator → CharSet → CharSet → CharSet
  | .inter => CharSet.inter
  | .diff => CharSet.diff
  | .symmDiff => CharSet.symmDiff

mutual

/-- The characters that the content of a bracketed class stands for. -/
def set? (flags : Flags) : ClassSyntax → Option CharSet
  | .empty => some CharSet.empty
  | .char literal => (literalCode? flags literal).map fun code => CharSet.ofRanges [(code, code)]
  | .range first last => do
      return CharSet.ofRanges [(← literalCode? flags first, ← literalCode? flags last)]
  | .ascii negated name => finished? flags negated (asciiSet name)
  | .letter negated name => letter? flags negated name
  | .property negated query => property? flags negated query
  | .bracketed negated content => (set? flags content).bind (finished? flags negated)
  | .union items => (sets? flags items).map CharSet.unions
  | .combined operator left right => do
      let left ← set? flags left
      let right ← set? flags right
      return combine operator (closed flags left) (closed flags right)

/-- The sets of some items. -/
def sets? (flags : Flags) : List ClassSyntax → Option (List CharSet)
  | [] => some []
  | item :: rest => do return (← set? flags item) :: (← sets? flags rest)

end

end CharClass

end Pattern

end ErrorCatalog
