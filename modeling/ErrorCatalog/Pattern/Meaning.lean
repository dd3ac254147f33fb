import ErrorCatalog.Pattern.CharClass
import ErrorCatalog.Pattern.Expression

/-!
# Meaning of patterns

The expression that a pattern stands for. A change of flags holds from its
place to the end of the innermost group, across the branches of that group.
-/

namespace ErrorCatalog

namespace Pattern

namespace Syntax

/-- The boundary that is meant under some flags. -/
def boundaryOf (flags : Flags) : BoundarySyntax → Boundary
  | .caret =>
      if flags.multiLine then if flags.crlf then .lineStartCrlf else .lineStart else .textStart
  | .dollar =>
      if flags.multiLine then if flags.crlf then .lineEndCrlf else .lineEnd else .textEnd
  | .textStart => .textStart
  | .textEnd => .textEnd
  | .word => .word (!flags.unicode)
  | .notWord => .notWord (!flags.unicode)
  | .wordStart => .wordStart (!flags.unicode)
  | .wordEnd => .wordEnd (!flags.unicode)
  | .wordStartHalf => .wordStartHalf (!flags.unicode)
  | .wordEndHalf => .wordEndHalf (!flags.unicode)

/-- The set of the dot, which exists with Unicode only. -/
def dotSet? (flags : Flags) : Option CharSet :=
  if ¬ flags.unicode then none
  else if flags.dotAll then some CharSet.all
  else if flags.crlf then some (CharSet.listed "A D").complement
  else some (CharSet.listed "A").complement

/-- A character, in both cases where case is ignored. A byte beyond ASCII is no character. -/
def charExpression? (flags : Flags) (literal : Literal) : Option Expression :=
  if ¬ flags.unicode ∧ literal.isByte ∧ 128 ≤ literal.char.toNat then none
  else
    let set := CharSet.single literal.char
    let closed := CharClass.closed flags set
    if closed = set then some (.literal [literal.char])
    else some (Expression.ofSet flags.unicode closed)

mutual

/-- The expression of a pattern, and the flags in force after it. -/
def expression? (flags : Flags) : Syntax → Option (Expression × Flags)
  | .empty => some (.empty, flags)
  | .flags change => some (.empty, flags.apply change)
  | .char literal => (charExpression? flags literal).map fun result => (result, flags)
  | .dot => (dotSet? flags).map fun set => (Expression.ofSet flags.unicode set, flags)
  | .boundary written => some (.boundary (boundaryOf flags written), flags)
  | .letter negated name =>
      (CharClass.letter? flags negated name).map fun set =>
        (Expression.ofSet flags.unicode set, flags)
  | .property negated query =>
      (CharClass.property? flags negated query).map fun set =>
        (Expression.ofSet flags.unicode set, flags)
  | .bracketed negated content =>
      ((CharClass.set? flags content).bind (CharClass.finished? flags negated)).map fun set =>
        (Expression.ofSet flags.unicode set, flags)
  | .repeated least most greedy body =>
      (expression? flags body).map fun (result, after) =>
        (Expression.repetition least most (greedy != after.swapGreed) result, after)
  | .group (.capture index _) body =>
      (expression? flags body).map fun (result, _) => (.group index result, flags)
  | .group (.plain change) body =>
      (expression? (flags.apply change) body).map fun (result, _) => (result, flags)
  | .concat items =>
      (expressions? flags items).map fun (results, after) => (Expression.cat results, after)
  | .alternatives branches =>
      (expressions? flags branches).map fun (results, after) => (Expression.alt results, after)

/-- The expressions of successive patterns, and the flags in force after them. -/
def expressions? (flags : Flags) : List Syntax → Option (List Expression × Flags)
  | [] => some ([], flags)
  | item :: rest => do
      let (result, after) ← expression? flags item
      let (results, last) ← expressions? after rest
      return (result :: results, last)

end

end Syntax

end Pattern

end ErrorCatalog
