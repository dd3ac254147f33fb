import ErrorCatalog.Pattern.Reader.Class
import ErrorCatalog.Unicode.Successor

/-!
# Reading patterns

The text of a pattern is read from left to right. The reader keeps a stack of
the groups that are still open; inside one group it keeps the finished branches
and the items of the current branch. Look-around does not exist.

`Reader.syntax?` reads a whole pattern with the names of its groups.
-/

namespace ErrorCatalog

namespace Pattern

namespace Reader

/-- The flag of a letter. -/
def flag? (c : Char) : Option Flag :=
  if c = 'i' then some .ignoreCase
  else if c = 'm' then some .multiLine
  else if c = 's' then some .dotAll
  else if c = 'U' then some .swapGreed
  else if c = 'u' then some .unicode
  else if c = 'R' then some .crlf
  else if c = 'x' then some .ignoreBlanks
  else none

/-- Flags up to a colon or closing parenthesis, which is returned with them. Each flag and the
hyphen occur at most once, and the hyphen is not the last. -/
def flags? (change : FlagChange) (negative : Bool) :
    List Char → Option (FlagChange × Char × List Char)
  | [] => none
  | c :: rest =>
      if c = ':' ∨ c = ')' then
        if negative ∧ change.off.isEmpty then none else some (change, c, rest)
      else if c = '-' then
        if negative then none else flags? change true rest
      else do
        let flag ← flag? c
        if (change.state? flag).isSome then none
        else if negative then flags? { change with off := change.off ++ [flag] } true rest
        else flags? { change with on := change.on ++ [flag] } false rest

/-- The letters that may stand in the name of a group. -/
def nameLetterSet : CharSet := Property.alphabetic.set.union Successor.letters

/-- The digits that may stand in the name of a group, except at its start. -/
def nameDigitSet : CharSet := (Category.unionSet [.nd, .nl, .no]).union Successor.digits

/-- Whether a character may stand in the name of a group. -/
def isNameChar (first : Bool) (c : Char) : Bool :=
  c == '_' || nameLetterSet.contains c ||
    (!first && (['.', '[', ']'].contains c || nameDigitSet.contains c))

/-- The name of a group, up to its closing angle bracket. -/
def groupName? (input : List Char) : Option (String × List Char) := do
  let (name, rest) ← splitAt? ['>'] input
  match name with
  | [] => none
  | c :: more =>
      if isNameChar true c && more.all (isNameChar false) then
        return (String.ofList name, rest)
      else none

/-- A group that is still open, with what was read before it. -/
structure OpenGroup where
  kind : GroupSyntax
  /-- The finished branches around the group, newest first. -/
  branches : List Syntax
  /-- The items before the group, newest first. -/
  items : List Syntax
  /-- Whether blanks are ignored after the group. -/
  ignoring : Bool

/-- What was read of a pattern. -/
structure State where
  /-- The finished branches of the innermost group, newest first. -/
  branches : List Syntax := []
  /-- The items of its current branch, newest first. -/
  items : List Syntax := []
  groups : List OpenGroup := []
  /-- The names of the capturing groups so far, newest first. -/
  names : List (Option String) := []
  ignoring : Bool := false

namespace State

/-- The state with one more item. -/
def push (state : State) (item : Syntax) : State := { state with items := item :: state.items }

/-- Everything read in the innermost group. -/
def body (state : State) : Syntax :=
  Syntax.ofBranches (Syntax.ofItems state.items.reverse :: state.branches).reverse

/-- The state after the end of a branch. -/
def nextBranch (state : State) : State :=
  { state with branches := Syntax.ofItems state.items.reverse :: state.branches, items := [] }

/-- The state inside a new group. -/
def openGroup (state : State) (kind : GroupSyntax) (ignoring : Bool) : State :=
  { state with
    branches := []
    items := []
    groups := ⟨kind, state.branches, state.items, state.ignoring⟩ :: state.groups
    ignoring := ignoring }

/-- The state inside a new capturing group. -/
def openCapture (state : State) (name : Option String) : State :=
  { state.openGroup (.capture (state.names.length + 1) name) state.ignoring with
    names := name :: state.names }

/-- The state after the innermost group, if one is open. -/
def closeGroup? (state : State) : Option State :=
  match state.groups with
  | [] => none
  | group :: outer => some { state with
      branches := group.branches
      items := .group group.kind state.body :: group.items
      groups := outer
      ignoring := group.ignoring }

/-- Repeat the last item, which must exist and be neither empty nor a change of flags. -/
def repeat? (state : State) (least : Nat) (most : Option Nat) (greedy : Bool) : Option State :=
  match state.items with
  | [] => none
  | .empty :: _ => none
  | .flags _ :: _ => none
  | item :: items => some { state with items := .repeated least most greedy item :: items }

end State

/-- Read an opening parenthesis and what belongs to it. -/
def openGroup? (state : State) (input : List Char) : Option (State × List Char) :=
  match skip state.ignoring input with
  | '?' :: rest =>
      match rest with
      | '=' :: _ => none
      | '!' :: _ => none
      | '<' :: '=' :: _ => none
      | '<' :: '!' :: _ => none
      | '<' :: rest =>
          (groupName? rest).map fun name => (state.openCapture (some name.1), name.2)
      | 'P' :: '<' :: rest =>
          (groupName? rest).map fun name => (state.openCapture (some name.1), name.2)
      | rest => do
          let (change, stop, rest) ← flags? ⟨[], []⟩ false rest
          let ignoring := (change.state? .ignoreBlanks).getD state.ignoring
          if stop = ':' then return (state.openGroup (.plain change) ignoring, rest)
          else if change.on.isEmpty ∧ change.off.isEmpty then none
          else return ({ state.push (.flags change) with ignoring := ignoring }, rest)
  | rest => some (state.openCapture none, rest)

/-- Whether a question mark makes a repetition lazy, and what follows it. -/
def greediness : List Char → Bool × List Char
  | '?' :: rest => (false, rest)
  | rest => (true, rest)

/-- The greatest count of a repetition. -/
def maxCount : Nat := 4294967295

/-- Decimal digits of a count, in at most `fuel` steps. -/
def countDigits (ignoring : Bool) (read : List Char) : Nat → List Char → List Char × List Char
  | fuel + 1, c :: rest =>
      if c.isDigit then countDigits ignoring (c :: read) fuel (skip ignoring rest)
      else (read.reverse, c :: rest)
  | _, rest => (read.reverse, rest)

/-- The count of a repetition, which may have blanks around it. -/
def count? (ignoring : Bool) (input : List Char) : Option (Nat × List Char) :=
  let start := input.dropWhile spaceSet.contains
  let (digits, rest) := countDigits ignoring [] (start.length + 1) start
  let value := digits.foldl (fun sum c => sum * 10 + (c.toNat - '0'.toNat)) 0
  if digits.isEmpty ∨ maxCount < value then none
  else some (value, skip ignoring (rest.dropWhile spaceSet.contains))

/-- A counted repetition after its opening brace. -/
def counted? (state : State) (input : List Char) : Option (State × List Char) := do
  let (least, rest) ← count? state.ignoring (skip state.ignoring input)
  let (most, rest) ← match rest with
    | ',' :: rest =>
        match skip state.ignoring rest with
        | '\x7d' :: rest => some (none, '\x7d' :: rest)
        | rest => (count? state.ignoring rest).map fun count => (some count.1, count.2)
    | rest => some (some least, rest)
  let rest ← after? ['\x7d'] rest
  let (greedy, rest) := greediness (skip state.ignoring rest)
  if (most.map fun most => decide (most < least)) = some true then none
  else return (← state.repeat? least most greedy, rest)

/-- A repetition without counts. -/
def uncounted? (state : State) (least : Nat) (most : Option Nat) (input : List Char) :
    Option (State × List Char) :=
  let (greedy, rest) := greediness input
  (state.repeat? least most greedy).map fun state => (state, rest)

/-- A primitive as an item of a pattern. -/
def Primitive.toSyntax : Primitive → Syntax
  | .char literal => .char literal
  | .boundary condition => .boundary condition
  | .letter negated name => .letter negated name
  | .property negated query => .property negated query

/-- Read one piece of a pattern, which starts with a given character. -/
def piece? (state : State) (c : Char) (rest : List Char) : Option (State × List Char) :=
  if c = '(' then openGroup? state rest
  else if c = ')' then state.closeGroup?.map fun state => (state, rest)
  else if c = '|' then some (state.nextBranch, rest)
  else if c = '[' then
    (class? state.ignoring rest).map fun bracketed => (state.push bracketed.1, bracketed.2)
  else if c = '?' then uncounted? state 0 (some 1) rest
  else if c = '*' then uncounted? state 0 none rest
  else if c = '+' then uncounted? state 1 none rest
  else if c = '\x7b' then counted? state rest
  else if c = '\\' then
    (escape? state.ignoring rest).map fun escape => (state.push escape.1.toSyntax, escape.2)
  else if c = '.' then some (state.push .dot, rest)
  else if c = '^' then some (state.push (.boundary .caret), rest)
  else if c = '$' then some (state.push (.boundary .dollar), rest)
  else some (state.push (.char ⟨c, false⟩), rest)

/-- Read the rest of a pattern, in at most `fuel` pieces. -/
def pieces? : Nat → State → List Char → Option State
  | 0, _, _ => none
  | fuel + 1, state, input =>
      match skip state.ignoring input with
      | [] => some state
      | c :: rest =>
          match piece? state c rest with
          | some (state, rest) => pieces? fuel state rest
          | none => none

/-- The greatest depth of a pattern. -/
def maxDepth : Nat := 250

/-- Read a pattern, with the names of its groups in order. -/
def syntax? (text : List Char) : Option (Syntax × List (Option String)) := do
  let state ← pieces? (text.length + 1) {} text
  if ¬ state.groups.isEmpty ∨ maxDepth < state.body.depth then none
  else return (state.body, state.names.reverse)

end Reader

end Pattern

end ErrorCatalog
