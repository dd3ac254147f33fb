import ErrorCatalog.Pattern.Encoding
import Std.Data.TreeMap.Basic

/-!
# Layouts

A layout numbers the states of an automaton that reads texts byte by byte, and
sums up the memory that they take. A state is laid out once more if an equal one
is forgotten meanwhile: states are looked up in slots, by a fingerprint, and a
slot remembers only the last state that was put there.
-/

namespace ErrorCatalog

namespace Pattern

/-- A state as far as it can be shared: the numbers that make it up. -/
abbrev StateKey := List Nat

namespace StateKey

/-- Mix a number into a fingerprint. -/
def mix (print : UInt64) (number : Nat) : UInt64 :=
  (print ^^^ number.toUInt64) * 1099511628211

/-- The fingerprint of a state. -/
def fingerprint (key : StateKey) : UInt64 := key.foldl mix 14695981039346656037

/-- The slot of a state among `count` ones. -/
def slot (count : Nat) (key : StateKey) : Nat := key.fingerprint.toNat % count

end StateKey

/-- The states that are laid out so far. -/
structure Layout where
  /-- The number of states, which is the number that the next one gets. -/
  states : Nat := 0
  /-- The memory that the states take beyond their fixed size. -/
  extra : Nat := 0
  /-- The states that can be shared, by their slots. -/
  slots : Std.TreeMap Nat (StateKey × Nat) := ∅

namespace Layout

/-- The fixed size of a state. -/
def stateSize : Nat := 32

/-- What a state takes for each range of bytes, if it has several. -/
def rangeSize : Nat := 8

/-- What a state takes for each of the states that it chooses between. -/
def choiceSize : Nat := 4

/-- The memory of the states. -/
def size (layout : Layout) : Nat := layout.states * stateSize + layout.extra

/-- The greatest size of an automaton. -/
def maxSize : Nat := 10485760

/-- A layout that is not too large. -/
def checked (layout : Layout) : Option Layout := if layout.size ≤ maxSize then some layout else none

end Layout

/-- A step of laying out an automaton, which fails where the automaton gets too large. -/
abbrev Drafting := StateT Layout Option

namespace Drafting

/-- Lay out `count` states with some extra memory. -/
def add (count extra : Nat) : Drafting Unit := fun layout =>
  let grown := { layout with states := layout.states + count, extra := layout.extra + extra }
  grown.checked.map fun grown => ((), grown)

/-- Lay out one state with some extra memory; the result is its number. -/
def state (extra : Nat) : Drafting Nat := do
  let layout ← get
  add 1 extra
  return layout.states

/-- Lay out a state that chooses between some others. -/
def choice (ways : Nat) : Drafting Unit := add 1 (Layout.choiceSize * ways)

/-- Forget all states that could be shared. -/
def forget : Drafting Unit := modify fun layout => { layout with slots := ∅ }

/-- The number of a state, which is laid out unless its slot among `count` ones has it. -/
def shared (count : Nat) (key : StateKey) (extra : Nat) : Drafting Nat := do
  let slot := key.slot count
  match (← get).slots[slot]?.filter fun known => known.1 = key with
  | some known => return known.2
  | none =>
      let number ← state extra
      modify fun layout => { layout with slots := layout.slots.insert slot (key, number) }
      return number

/-- Do a step a number of times. -/
def times : Nat → Drafting Unit → Drafting Unit
  | 0, _, layout => some ((), layout)
  | count + 1, step, layout =>
      match step layout with
      | some ((), layout) => times count step layout
      | none => none

/-- The numbers that make up a state with some ways out of it. -/
def key (ways : List (ByteRange × Nat)) : StateKey :=
  ways.flatMap fun (range, next) => [range.first, range.last, next]

/-- Lay out a state with some ways out of it, which can be shared. -/
def sharedWays (ways : List (ByteRange × Nat)) : Drafting Nat :=
  shared 10000 (key ways) (Layout.rangeSize * ways.length)

/-- Lay out the states inside of the branches of a tree that ends in the state `target`. The
result are the ways into the branches. -/
def ways (target : Nat) : ByteTree → Drafting (List (ByteRange × Nat))
  | .nil => return []
  | .branch range inside rest => do
      let next ← if inside.isEmpty then pure target else sharedWays (← ways target inside)
      return (range, next) :: (← ways target rest)

/-- Lay out a byte sequence from its end, which leads to the state `target`. The result is the
state that it begins with. -/
def chain (target : Nat) : List ByteRange → Drafting Nat
  | [] => return target
  | range :: rest => do chain (← shared 1000 [target, range.first, range.last] 0) rest

/-- Whether an automaton can be laid out. -/
def succeeds (step : Drafting Unit) : Bool := (step {}).isSome

end Drafting

end Pattern

end ErrorCatalog
