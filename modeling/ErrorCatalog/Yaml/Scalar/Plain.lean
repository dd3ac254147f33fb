import ErrorCatalog.Yaml.Position

/-!
# Plain scalars

A plain scalar is a sequence of words without quotes. It ends before a comment,
a colon that is followed by a blank, a document mark, or a line that is not
indented enough; within brackets it also ends before the signs that structure a
collection.
-/

namespace ErrorCatalog

namespace Yaml

namespace Plain

/-- The signs that structure a collection within brackets. -/
def isFlowSign (c : Char) : Bool := [',', '[', ']', '\x7b', '\x7d'].contains c

/-- Whether a plain scalar ends before a character and what follows it. -/
def ends (flow : Bool) (c : Char) (rest : List Char) : Bool :=
  blankNext [c] || (c = ':' && blankNext rest) || (flow && isFlowSign c)

/-- Whether a colon within brackets is followed by a sign that it must not touch. -/
def collides (flow : Bool) (c : Char) (rest : List Char) : Bool :=
  flow && c = ':' && rest.head?.any fun next => next = '?' || isFlowSign next

/-- Read one word. -/
def word? (flow : Bool) : List Char → Option (List Char)
  | [] => some []
  | c :: rest =>
      if collides flow c rest then none
      else if ends flow c rest then some []
      else do return c :: (← word? flow rest)

/-- What is read of a plain scalar. -/
structure Reading where
  text : String
  /-- Whether a line has ended after the last word. -/
  broken : Bool
  /-- The place after the scalar and the gap behind it. -/
  position : Position

/-- Read words, at most `fuel` of them, after the text that is already read, newest character
first. -/
def words? (flow : Bool) (minimum : Nat) :
    Nat → List Char → Position.Gap → Position → Option Reading
  | 0, _, _, _ => none
  | fuel + 1, text, gap, position => do
      let stop (broken : Bool) (text : List Char) (position : Position) : Reading :=
        ⟨String.ofList text.reverse, broken, position⟩
      if position.marksDocument ∨ position.rest.head? = some '#' then
        return stop gap.broken text position
      let word ← word? flow position.rest
      if word.isEmpty then return stop gap.broken text position
      let text := (gap.text ++ word).reverse ++ text
      let after := position.skip word.length
      if after.rest.isEmpty ∨ ¬ blankNext after.rest then return stop false text after
      let (gap, next) ← after.gap? minimum
      if ¬ flow ∧ next.column < minimum then return stop gap.broken text next
      words? flow minimum fuel text gap next

/-- Read a plain scalar of at most `fuel` words, whose further lines are indented up to a given
column. -/
def read? (flow : Bool) (minimum fuel : Nat) (position : Position) : Option Reading :=
  words? flow minimum fuel [] {} position

end Plain

end Yaml

end ErrorCatalog
