import ErrorCatalog.Pattern.Expression
import ErrorCatalog.Pattern.Layout

/-!
# Size of patterns

A pattern is matched by two automata, one that reads a text from its front and
notes groups, and one that reads it from its back. A repetition with counts holds
as many copies of its body, so that a short pattern can be large; `Expression.fits`
says whether both automata of a pattern are small enough.
-/

namespace ErrorCatalog

namespace Pattern

/-- The direction in which an automaton reads texts. -/
inductive Direction where
  | forward
  | backward
  deriving Repr, DecidableEq

namespace Drafting

/-- Lay out one character of a set. Forward, equal ends of byte sequences are shared, backward
equal beginnings. -/
def set (direction : Direction) (set : CharSet) : Drafting Unit :=
  if set.isAscii then add 2 (Layout.rangeSize * set.ranges.size)
  else do
    forget
    match direction with
    | .forward =>
        let target ← state 0
        let _ ← sharedWays (← ways target (ByteTree.ofSequences set.sequences))
    | .backward =>
        add 1 0
        let target ← state 0
        set.sequences.forM fun sequence => do
          let _ ← chain target sequence
          add 0 Layout.choiceSize

end Drafting

namespace LiteralTree

/-- Texts that are looked up byte by byte, in the order in which they are tried. -/
abbrev Texts := List (List UInt8)

/-- The texts between those that end here, of which the ones at the start count once. -/
def chunks (texts : Texts) : List Texts :=
  let later := texts.dropWhile List.isEmpty
  let parts := later.splitBy fun _ next => !next.isEmpty
  let parts := parts.map fun part => part.filter fun text => !text.isEmpty
  if later.length < texts.length then [] :: parts else parts

/-- The first bytes of some texts, each once. -/
def firsts (texts : Texts) : List UInt8 := (texts.filterMap List.head?).eraseDups

/-- What follows a byte in the texts that start with it. -/
def after (byte : UInt8) (texts : Texts) : Texts :=
  texts.filterMap fun text => if text.head? = some byte then some text.tail else none

/-- Lay out the choice between some texts, of which the longest has less than `fuel` bytes: a state
for each chunk, and one that chooses between the chunks and the ends between them. -/
def draft : Nat → Texts → Drafting Unit
  | 0, _ => return
  | fuel + 1, texts =>
      if texts.all List.isEmpty then return
      else do
        let parts := chunks texts
        parts.forM fun part => do
          let bytes := firsts part
          bytes.forM fun byte => draft fuel (after byte part)
          if 1 < bytes.length then Drafting.add 1 (Layout.rangeSize * bytes.length)
          else Drafting.add bytes.length 0
        let used := parts.filter fun part => !part.isEmpty
        Drafting.choice (used.length + parts.length - 1)

end LiteralTree

namespace Expression

/-- The bytes of a text in the order of reading. -/
def readBytes (direction : Direction) (text : List Char) : List UInt8 :=
  let bytes := (String.ofList text).toUTF8.data.toList
  match direction with
  | .forward => bytes
  | .backward => bytes.reverse

/-- The text of a literal. -/
def literalText? : Expression → Option (List Char)
  | .literal text => some text
  | _ => none

mutual

/-- The length of the shortest text that an expression matches. It is not known where some part
of the expression matches nothing. -/
def shortest? : Expression → Option Nat
  | .empty => some 0
  | .literal text => some text.length
  | .one _ set => if set.isEmpty then none else some 1
  | .boundary _ => some 0
  | .repeated least _ _ body => body.shortest?.map fun length => least * length
  | .group _ body => body.shortest?
  | .concat items => (shortests? items).map List.sum
  | .alternatives branches => (shortests? branches).bind List.min?

/-- The lengths of the shortest texts that some expressions match. -/
def shortests? : List Expression → Option (List Nat)
  | [] => some []
  | item :: rest => do return (← item.shortest?) :: (← shortests? rest)

end

mutual

/-- Lay out an expression. -/
def draft (direction : Direction) : Expression → Drafting Unit
  | .empty => Drafting.add 1 0
  | .literal text => Drafting.add (String.ofList text).utf8ByteSize 0
  | .one _ set => Drafting.set direction set
  | .boundary _ => Drafting.add 1 0
  | .group _ body =>
      match direction with
      | .forward => do
          Drafting.add 1 0
          body.draft direction
          Drafting.add 1 0
      | .backward => body.draft direction
  | .repeated least most _ body =>
      let copies (count : Nat) : Drafting Unit :=
        if count = 0 then Drafting.add 1 0 else Drafting.times count (body.draft direction)
      match most with
      | none =>
          if 0 < least then do
            Drafting.times least (body.draft direction)
            Drafting.choice 2
          else if body.shortest?.any (0 < ·) then do
            Drafting.choice 2
            body.draft direction
          else do
            body.draft direction
            Drafting.choice 2
            Drafting.choice 2
            Drafting.add 1 0
      | some most =>
          if least = most then copies least
          else if least = 0 ∧ most = 1 then do
            Drafting.choice 2
            body.draft direction
            Drafting.add 1 0
          else do
            copies least
            Drafting.add 1 0
            Drafting.times (most - least) do
              Drafting.choice 2
              body.draft direction
  | .concat items => draftAll direction items
  | .alternatives branches =>
      match branches.mapM literalText? with
      | some texts =>
          let texts := texts.map (readBytes direction)
          Drafting.add 1 0 *> LiteralTree.draft ((texts.map List.length).sum + 1) texts
      | none => draftBranches direction 0 branches

/-- Lay out a concatenation in the order of reading. -/
def draftAll (direction : Direction) : List Expression → Drafting Unit
  | [] => return
  | item :: rest =>
      match direction with
      | .forward => do
          item.draft direction
          draftAll direction rest
      | .backward => do
          draftAll direction rest
          item.draft direction

/-- Lay out the further branches of a choice after `count` ones; the state that chooses and the
one behind the choice are laid out after the second branch. -/
def draftBranches (direction : Direction) (count : Nat) : List Expression → Drafting Unit
  | [] => return
  | branch :: rest => do
      branch.draft direction
      if count = 1 then
        Drafting.choice 2
        Drafting.add 1 0
      else if 1 < count then Drafting.add 0 Layout.choiceSize
      draftBranches direction (count + 1) rest

end

mutual

/-- Whether every match starts where the text starts. -/
def isStartBound : Expression → Bool
  | .boundary edge => edge == .textStart
  | .repeated least _ _ body => least != 0 && body.isStartBound
  | .group _ body => body.isStartBound
  | .concat items => someStartBound items
  | .alternatives branches => allStartBound branches
  | _ => false

/-- Whether some item is bound to the start of the text with nothing but hollow ones before. -/
def someStartBound : List Expression → Bool
  | [] => false
  | item :: rest => item.isStartBound || (item.isHollow && someStartBound rest)

/-- Whether all branches are bound to the start of the text. -/
def allStartBound : List Expression → Bool
  | [] => true
  | branch :: rest => branch.isStartBound && allStartBound rest

end

mutual

/-- Whether every match ends where the text ends. -/
def isEndBound : Expression → Bool
  | .boundary edge => edge == .textEnd
  | .repeated least _ _ body => least != 0 && body.isEndBound
  | .group _ body => body.isEndBound
  | .concat items => someEndBound items
  | .alternatives branches => allEndBound branches
  | _ => false

/-- Whether some item is bound to the end of the text with nothing but hollow ones after. -/
def someEndBound : List Expression → Bool
  | [] => false
  | item :: rest => someEndBound rest || (areHollow rest && item.isEndBound)

/-- Whether all branches are bound to the end of the text. -/
def allEndBound : List Expression → Bool
  | [] => true
  | branch :: rest => branch.isEndBound && allEndBound rest

end

/-- Lay out the automaton of an expression. Unless it is bound to the place where reading starts,
a loop over any bytes stands before it. -/
def automaton (direction : Direction) (expression : Expression) : Drafting Unit := do
  let bound := match direction with
    | .forward => expression.isStartBound
    | .backward => expression.isEndBound
  if bound then Drafting.add 1 0
  else
    Drafting.choice 2
    Drafting.add 2 Layout.rangeSize
  Expression.draft direction (.group 0 expression)
  Drafting.add 1 0

/-- The number of literals from which on a choice between them needs no automaton. -/
def manyLiterals : Nat := 3000

/-- Whether an expression is a choice between very many literals. -/
def isLongList : Expression → Bool
  | .alternatives branches =>
      manyLiterals ≤ branches.length && (branches.mapM literalText?).isSome
  | _ => false

/-- Whether a pattern is not too large. -/
def fits (expression : Expression) : Bool :=
  expression.isLongList ||
    ((expression.automaton .forward).succeeds && (expression.automaton .backward).succeeds)

end Expression

end Pattern

end ErrorCatalog
