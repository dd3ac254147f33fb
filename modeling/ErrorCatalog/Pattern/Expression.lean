import ErrorCatalog.Pattern.Cursor

/-!
# Expressions

An expression is a pattern with its flags resolved. Expressions are built in a
simplified form, which fixes the order in which ways through a pattern are
preferred: adjacent literals are one, nested concatenations and alternatives
are flat, and a prefix common to all branches of an alternative stands before
it.
-/

namespace ErrorCatalog

namespace Pattern

/-- Patterns without flags. -/
inductive Expression where
  | empty
  | literal (text : List Char)
  /-- One character of a set, which holds characters or, without Unicode, bytes. -/
  | one (unicode : Bool) (set : CharSet)
  | boundary (boundary : Boundary)
  | repeated (least : Nat) (most : Option Nat) (greedy : Bool) (body : Expression)
  | group (index : Nat) (body : Expression)
  | concat (items : List Expression)
  | alternatives (branches : List Expression)
  deriving Repr, BEq, Inhabited

namespace Expression

/-- The expression that matches nowhere. -/
def never : Expression := .one true CharSet.empty

/-- One character of a set; a set of one character is a literal. -/
def ofSet (unicode : Bool) (set : CharSet) : Expression :=
  match set.only? with
  | some code => .literal [Char.ofNat code]
  | none => .one unicode set

mutual

/-- Whether an expression can match nothing but the empty text. -/
def isHollow : Expression → Bool
  | .empty => true
  | .literal _ => false
  | .one _ _ => false
  | .boundary _ => true
  | .repeated _ most _ body => most == some 0 || body.isHollow
  | .group _ body => body.isHollow
  | .concat items => areHollow items
  | .alternatives branches => areHollow branches

/-- Whether all expressions of a list are hollow. -/
def areHollow : List Expression → Bool
  | [] => true
  | item :: rest => item.isHollow && areHollow rest

end

mutual

/-- Whether every match of an expression consumes a character. -/
def isConsuming : Expression → Bool
  | .empty => false
  | .literal text => !text.isEmpty
  | .one _ set => !set.isEmpty
  | .boundary _ => false
  | .repeated least _ _ body => least != 0 && body.isConsuming
  | .group _ body => body.isConsuming
  | .concat items => someConsuming items
  | .alternatives branches => allConsuming branches

/-- Whether some expression of a list is consuming. -/
def someConsuming : List Expression → Bool
  | [] => false
  | item :: rest => item.isConsuming || someConsuming rest

/-- Whether all expressions of a list are consuming. -/
def allConsuming : List Expression → Bool
  | [] => true
  | item :: rest => item.isConsuming && allConsuming rest

end

/-- A repetition. A hollow body counts at most once, and a single repetition is the body. -/
def repetition (least : Nat) (most : Option Nat) (greedy : Bool) (body : Expression) :
    Expression :=
  let hollow := body.isHollow
  let least := if hollow then min least 1 else least
  let most := if hollow then some ((most.map (min · 1)).getD 1) else most
  if least = 0 ∧ most = some 0 then .empty
  else if least = 1 ∧ most = some 1 then body
  else .repeated least most greedy body

/-- The items of a concatenation; an empty expression has none. -/
def items : Expression → List Expression
  | .empty => []
  | .concat items => items
  | item => [item]

/-- Put an item before others, joining literals. -/
def consItem (item : Expression) (rest : List Expression) : List Expression :=
  match item, rest with
  | .literal first, .literal second :: rest => .literal (first ++ second) :: rest
  | item, rest => item :: rest

/-- The concatenation of some expressions. -/
def cat (expressions : List Expression) : Expression :=
  match (expressions.flatMap items).foldr consItem [] with
  | [] => .empty
  | [item] => item
  | items => .concat items

/-- The branches of an alternative. -/
def branches : Expression → List Expression
  | .alternatives branches => branches
  | branch => [branch]

/-- The character of a literal of one character. -/
def onlyChar? : Expression → Option Char
  | .literal [c] => some c
  | _ => none

/-- The set of a class, as far as it holds characters. -/
def charSet? : Expression → Option CharSet
  | .one unicode set => if unicode ∨ set.isAscii then some set else none
  | _ => none

/-- The items that two lists have in common at the front. -/
def commonItems : List Expression → List Expression → List Expression
  | first :: left, second :: right =>
      if first == second then first :: commonItems left right else []
  | _, _ => []

/-- The items of a concatenation of several items. -/
def concatItems? : Expression → Option (List Expression)
  | .concat items => some items
  | _ => none

/-- The items common to all branches at the front, if all are concatenations. -/
def commonPrefix (branches : List Expression) : List Expression :=
  match branches.mapM concatItems? with
  | some (first :: rest) => rest.foldl commonItems first
  | _ => []

/-- The choice between some branches, with common prefixes taken out at most `fuel` times. -/
def choice : Nat → List Expression → Expression
  | 0, expressions => .alternatives expressions
  | fuel + 1, expressions =>
      let flat := expressions.flatMap branches
      match flat with
      | [] => never
      | [branch] => branch
      | flat =>
          match flat.mapM onlyChar?, flat.mapM charSet? with
          | some chars, _ => ofSet true (CharSet.unions (chars.map CharSet.single))
          | none, some sets => ofSet true (CharSet.unions sets)
          | none, none =>
              match commonPrefix flat with
              | [] => .alternatives flat
              | shared =>
                  let rests := flat.map fun branch => cat (branch.items.drop shared.length)
                  cat (shared ++ [choice fuel rests])

/-- The choice between some branches. Taking out a prefix shortens every branch, so that the
number of items bounds how often this happens. -/
def alt (expressions : List Expression) : Expression :=
  choice ((expressions.flatMap branches).foldl (fun sum branch => sum + branch.items.length) 1)
    expressions

end Expression

end Pattern

end ErrorCatalog
