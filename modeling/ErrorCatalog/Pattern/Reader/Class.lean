import ErrorCatalog.Pattern.Reader.Escape

/-!
# Reading bracketed classes

A bracketed class lists characters, ranges and other classes, and combines such
lists by operators. The reader keeps a stack of the classes that are still
open.
-/

namespace ErrorCatalog

namespace Pattern

namespace Reader

/-- The class of a name between `[:` and `:]`. -/
def asciiNamed? (name : String) : Option AsciiClass :=
  [("alnum", AsciiClass.alnum), ("alpha", .alpha), ("ascii", .ascii), ("blank", .blank),
    ("cntrl", .cntrl), ("digit", .digit), ("graph", .graph), ("lower", .lower),
    ("print", .print), ("punct", .punct), ("space", .space), ("upper", .upper),
    ("word", .word), ("xdigit", .xdigit)].lookup name

/-- A named ASCII class after its opening bracket, such as `:^alpha:]`. -/
def asciiClass? (input : List Char) : Option (ClassSyntax × List Char) := do
  let rest ← after? [':'] input
  let (negated, rest) := match rest with
    | '^' :: rest => (true, rest)
    | rest => (false, rest)
  let (name, rest) ← splitAt? [':'] rest
  let rest ← after? [']'] rest
  return (.ascii negated (← asciiNamed? (String.ofList name)), rest)

/-- A bracketed class that is still open. -/
structure OpenClass where
  negated : Bool
  /-- The items since the last operator, newest first. -/
  items : List ClassSyntax
  /-- The operator before those items, with everything left of it. -/
  pending : Option (ClassOperator × ClassSyntax)

namespace OpenClass

/-- The open class with one more item. -/
def push (current : OpenClass) (item : ClassSyntax) : OpenClass :=
  { current with items := item :: current.items }

/-- Everything read so far. -/
def content (current : OpenClass) : ClassSyntax :=
  let items := ClassSyntax.ofItems current.items.reverse
  match current.pending with
  | none => items
  | some (operator, left) => .combined operator left items

/-- The open class after an operator. -/
def operate (current : OpenClass) (operator : ClassOperator) : OpenClass :=
  { current with items := [], pending := some (operator, current.content) }

end OpenClass

/-- Leading hyphens of a class, in at most `fuel` steps. -/
def leadingHyphens (ignoring : Bool) (current : OpenClass) :
    Nat → List Char → OpenClass × List Char
  | fuel + 1, '-' :: rest =>
      leadingHyphens ignoring (current.push (.char ⟨'-', false⟩)) fuel (skip ignoring rest)
  | _, rest => (current, rest)

/-- Open a class after its bracket. Leading hyphens, and a bracket that would close an empty
class, stand for themselves. -/
def openClass? (ignoring : Bool) (input : List Char) : Option (OpenClass × List Char) :=
  let (negated, rest) := match skip ignoring input with
    | '^' :: rest => (true, skip ignoring rest)
    | rest => (false, rest)
  match leadingHyphens ignoring ⟨negated, [], none⟩ (rest.length + 1) rest with
  | (_, []) => none
  | (current, c :: rest) =>
      if current.items.isEmpty ∧ c = ']' then
        match skip ignoring rest with
        | [] => none
        | rest => some (current.push (.char ⟨']', false⟩), rest)
      else some (current, c :: rest)

/-- One end of a range, or an item that is no range. -/
def classPrimitive? (ignoring : Bool) : List Char → Option (Primitive × List Char)
  | [] => none
  | '\\' :: rest => escape? ignoring rest
  | c :: rest => some (.plain c, rest)

/-- A primitive as an item of a class; boundaries are none. -/
def classItem? : Primitive → Option ClassSyntax
  | .char literal => some (.char literal)
  | .letter negated name => some (.letter negated name)
  | .property negated query => some (.property negated query)
  | .boundary _ => none

/-- The next character that is no blank. Where blanks are ignored, so is one number sign. -/
def peek? (ignoring : Bool) (input : List Char) : Option Char :=
  if ignoring then
    match input.dropWhile spaceSet.contains with
    | '#' :: rest =>
        match rest.dropWhile spaceSet.contains with
        | [] => input.head?
        | c :: _ => some c
    | [] => input.head?
    | c :: _ => some c
  else input.head?

/-- An item or a range of a class. -/
def classRange? (ignoring : Bool) (input : List Char) : Option (ClassSyntax × List Char) := do
  let (first, rest) ← classPrimitive? ignoring input
  match skip ignoring rest with
  | [] => none
  | c :: rest =>
      let next := peek? ignoring rest
      if c ≠ '-' ∨ next = some ']' ∨ next = some '-' then
        return (← classItem? first, c :: rest)
      else
        let (last, rest) ← classPrimitive? ignoring (skip ignoring rest)
        match first, last with
        | .char first, .char last =>
            if first.char ≤ last.char then return (.range first last, rest) else none
        | _, _ => none

/-- Read the rest of an open class inside others, in at most `fuel` steps. -/
def classRest? (ignoring : Bool) :
    Nat → OpenClass → List OpenClass → List Char → Option (Syntax × List Char)
  | 0, _, _, _ => none
  | fuel + 1, current, outer, input =>
      match skip ignoring input with
      | [] => none
      | '[' :: rest =>
          match asciiClass? rest with
          | some (item, rest) => classRest? ignoring fuel (current.push item) outer rest
          | none =>
              match openClass? ignoring rest with
              | some (inner, rest) => classRest? ignoring fuel inner (current :: outer) rest
              | none => none
      | ']' :: rest =>
          match outer with
          | [] => some (.bracketed current.negated current.content, rest)
          | next :: outer =>
              let item := ClassSyntax.bracketed current.negated current.content
              classRest? ignoring fuel (next.push item) outer rest
      | '&' :: '&' :: rest => classRest? ignoring fuel (current.operate .inter) outer rest
      | '-' :: '-' :: rest => classRest? ignoring fuel (current.operate .diff) outer rest
      | '~' :: '~' :: rest => classRest? ignoring fuel (current.operate .symmDiff) outer rest
      | rest =>
          match classRange? ignoring rest with
          | some (item, rest) => classRest? ignoring fuel (current.push item) outer rest
          | none => none

/-- A bracketed class after its opening bracket. -/
def class? (ignoring : Bool) (input : List Char) : Option (Syntax × List Char) := do
  let (current, rest) ← openClass? ignoring input
  classRest? ignoring (rest.length + 1) current [] rest

end Reader

end Pattern

end ErrorCatalog
