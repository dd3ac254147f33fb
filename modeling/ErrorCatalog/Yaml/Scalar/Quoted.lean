import ErrorCatalog.Hexadecimal
import ErrorCatalog.Yaml.Position

/-!
# Quoted scalars

Between single quotes a quote is written twice, between double quotes there are
escape sequences. Line ends are folded as in plain scalars, except for those
that are escaped.
-/

namespace ErrorCatalog

namespace Yaml

namespace Quoted

/-- The character with a code of exactly `count` digits, and how many characters write it with
its letter. -/
def numeric? (count : Nat) (input : List Char) : Option (Char × Nat) := do
  let digits := input.take count
  if digits.length < count then none
  return (← Hexadecimal.charOf? (← Hexadecimal.value? digits), count + 1)

/-- The character of an escape sequence after the backslash, and how many characters write
it. -/
def escape? : List Char → Option (Char × Nat)
  | [] => none
  | c :: rest =>
      match c with
      | '0' => some ('\x00', 1)
      | 'a' => some ('\x07', 1)
      | 'b' => some ('\x08', 1)
      | 't' => some ('\t', 1)
      | '\t' => some ('\t', 1)
      | 'n' => some ('\n', 1)
      | 'v' => some ('\x0b', 1)
      | 'f' => some ('\x0c', 1)
      | 'r' => some ('\r', 1)
      | 'e' => some ('\x1b', 1)
      | ' ' => some (' ', 1)
      | '"' => some ('"', 1)
      | '/' => some ('/', 1)
      | '\\' => some ('\\', 1)
      | 'N' => some ('\u0085', 1)
      | '_' => some ('\u00a0', 1)
      | 'L' => some ('\u2028', 1)
      | 'P' => some ('\u2029', 1)
      | 'x' => numeric? 2 rest
      | 'u' => numeric? 4 rest
      | 'U' => numeric? 8 rest
      | _ => none

/-- Read on after the opening quote, in at most `fuel` steps, with the text that is already
read, newest character first. -/
def text? (quote : Char) : Nat → List Char → Position → Option (String × Position)
  | 0, _, _ => none
  | fuel + 1, text, position =>
      if position.marksDocument then none
      else
        match position.rest with
        | [] => none
        | c :: rest =>
            if c = quote then
              if quote = '\'' ∧ rest.head? = some quote then
                text? quote fuel (quote :: text) (position.skip 2)
              else some (String.ofList text.reverse, position.skip 1)
            else if blankNext [c] then do
              let (gap, position) ← position.gap? 0
              text? quote fuel (gap.text.reverse ++ text) position
            else if quote = '"' ∧ c = '\\' then
              if ¬ rest.isEmpty ∧ breakNext rest then do
                let next := (position.skip 1).nextLine
                let (breaks, position) ← Position.breaks? 0 next.line next.column next.rest
                text? quote fuel (breaks.reverse ++ text) position
              else do
                let (escaped, count) ← escape? rest
                text? quote fuel (escaped :: text) (position.skip (count + 1))
            else text? quote fuel (c :: text) (position.skip 1)

/-- Read a quoted scalar from its opening quote on, in at most `fuel` steps. -/
def read? (quote : Char) (fuel : Nat) (position : Position) : Option (String × Position) :=
  text? quote fuel [] (position.skip 1)

end Quoted

end Yaml

end ErrorCatalog
