import Std.Data.HashSet
import ErrorCatalog.Pattern.Cursor

/-!
# Searching a text

A node is a compiled pattern. Search tries the places of a text from left to
right, and at each place the alternatives of a node in order of preference:
the first way through the node wins.

Every choice of a node has a number, and no choice is entered twice at the
same place, neither in one attempt nor in a later one. A second entry could
only fail as the first one did; refusing it bounds the work by the number of
choices times the length of the text, and ends loops that consume nothing.

- `Node.run` passes every way through a node to what follows the node;
- `Node.search?` finds the spans of the groups in the leftmost match.
-/

namespace ErrorCatalog

namespace Pattern

/-- Compiled patterns. The number of a choice is its own in the whole pattern. -/
inductive Node where
  /-- Consumes nothing. -/
  | empty
  /-- Consumes exactly a text. -/
  | literal (text : List Char)
  /-- Consumes one character of a set. -/
  | one (set : CharSet)
  /-- Consumes nothing, at a boundary only. -/
  | boundary (boundary : Boundary)
  /-- Records what the body consumes. -/
  | group (index : Nat) (body : Node)
  /-- One node after the other. -/
  | seq (first second : Node)
  /-- The first node, or else the second. -/
  | alt (choice : Nat) (first second : Node)
  /-- The body or nothing, the body first when greedy. -/
  | opt (choice : Nat) (greedy : Bool) (body : Node)
  /-- The body any number of times, at least once if asked for, as often as possible first
  when greedy. -/
  | loop (choice : Nat) (greedy : Bool) (atLeastOnce : Bool) (body : Node)
  deriving Repr

/-- What a group consumed: a number of characters of the text from a place on. -/
structure Span where
  group : Nat
  /-- The text from the start of the span on. -/
  text : List Char
  /-- The number of characters in the span. -/
  length : Nat
  deriving Repr

/-- The consumed text. -/
def Span.content (span : Span) : String := String.ofList (span.text.take span.length)

/-- The choices entered so far, each with its place. -/
abbrev Entered := Std.HashSet (Nat × Nat)

/-- The spans of a match, latest first, if there is one, and the choices entered. -/
abbrev Outcome := Option (List Span) × Entered

/-- What follows a node: it continues at a place with the spans recorded so far. -/
abbrev Continuation := Cursor → List Span → Entered → Outcome

namespace Node

/-- Enter a choice at a place, unless it was entered there before. -/
def enter (choice : Nat) (cursor : Cursor) (entered : Entered) (go : Entered → Outcome) :
    Outcome :=
  if entered.contains (choice, cursor.index) then (none, entered)
  else go (entered.insert (choice, cursor.index))

/-- The first outcome if it is a match, or else the second one. -/
def orElse (first : Outcome) (second : Entered → Outcome) : Outcome :=
  match first with
  | (some spans, entered) => (some spans, entered)
  | (none, entered) => second entered

/-- Two continuations in order of preference, the first one preferred when greedy. -/
def prefer (greedy : Bool) (first second : Continuation) : Continuation :=
  fun cursor spans entered =>
    if greedy then orElse (first cursor spans entered) (second cursor spans)
    else orElse (second cursor spans entered) (first cursor spans)

/-- Go through a body again or leave, deciding at most `fuel` times. -/
def repeated (choice : Nat) (greedy : Bool) (body : Continuation → Continuation)
    (next : Continuation) : Nat → Continuation
  | 0 => fun _ _ entered => (none, entered)
  | fuel + 1 => fun cursor spans entered =>
      enter choice cursor entered
        (prefer greedy (body (repeated choice greedy body next fuel)) next cursor spans)

/-- Continue after a step, if there is one. -/
def continueAt (next : Continuation) (spans : List Span) (entered : Entered) :
    Option Cursor → Outcome
  | some cursor => next cursor spans entered
  | none => (none, entered)

/-- Go through a node and continue with `next`. A loop decides at each place at most once,
so that `places` bounds its decisions when it exceeds the number of places by one. -/
def run (places : Nat) : Node → Continuation → Continuation
  | .empty, next => next
  | .literal text, next => fun cursor spans entered =>
      continueAt next spans entered (cursor.over? text)
  | .one set, next => fun cursor spans entered =>
      continueAt next spans entered (cursor.overOne? set)
  | .boundary condition, next => fun cursor spans entered =>
      if cursor.satisfies condition then next cursor spans entered else (none, entered)
  | .group index body, next => fun cursor spans entered =>
      run places body (fun after spans entered =>
        next after (⟨index, cursor.rest, after.index - cursor.index⟩ :: spans) entered)
        cursor spans entered
  | .seq first second, next => run places first (run places second next)
  | .alt choice first second, next => fun cursor spans entered =>
      enter choice cursor entered
        (prefer true (run places first next) (run places second next) cursor spans)
  | .opt choice greedy body, next => fun cursor spans entered =>
      enter choice cursor entered (prefer greedy (run places body next) next cursor spans)
  | .loop choice greedy atLeastOnce body, next =>
      let again := repeated choice greedy (run places body) next places
      if atLeastOnce then run places body again else again

/-- Accept whatever was consumed. -/
def accept : Continuation := fun _ spans entered => (some spans, entered)

/-- Try every place from a given one on. -/
def searchFrom (node : Node) (places : Nat) (before : Option Char) (index : Nat) :
    List Char → Entered → Option (List Span)
  | [], entered => (node.run places accept ⟨before, [], index⟩ [] entered).1
  | c :: rest, entered =>
      match node.run places accept ⟨before, c :: rest, index⟩ [] entered with
      | (some spans, _) => some spans
      | (none, entered) => searchFrom node places (some c) (index + 1) rest entered

/-- The spans of the groups in the leftmost match, latest first. -/
def search? (node : Node) (text : List Char) : Option (List Span) :=
  node.searchFrom (text.length + 2) none 0 text {}

end Node

end Pattern

end ErrorCatalog
