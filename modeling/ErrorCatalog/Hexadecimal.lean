/-!
# Hexadecimal numbers

Escape sequences give characters by their code points, which are written with
hexadecimal digits of either case.
-/

namespace ErrorCatalog

namespace Hexadecimal

/-- The value of a digit. -/
def digit? (c : Char) : Option Nat :=
  if '0' ≤ c ∧ c ≤ '9' then some (c.toNat - '0'.toNat)
  else if 'a' ≤ c ∧ c ≤ 'f' then some (c.toNat - 'a'.toNat + 10)
  else if 'A' ≤ c ∧ c ≤ 'F' then some (c.toNat - 'A'.toNat + 10)
  else none

/-- The value of some digits, if there are no other characters among them. -/
def value? (digits : List Char) : Option Nat :=
  digits.foldlM (fun sum c => (digit? c).map (sum * 16 + ·)) 0

/-- The character with a code point, unless it is a surrogate or too great. -/
def charOf? (code : Nat) : Option Char :=
  if code.isValidChar then some (Char.ofNat code) else none

end Hexadecimal

end ErrorCatalog
