/-!
# Finite doubles

A double is a finite 64-bit binary floating-point number, given by its sign,
significand and binary exponent. All arithmetic is exact arithmetic on natural
numbers followed by one rounding, to the nearest double and to an even
significand on a tie.

- `Double.round?` rounds a quotient of naturals, `none` when it is out of range;
- `Double.numerator` and `Double.denominator` give the exact magnitude.
-/

namespace ErrorCatalog

/-- The finite double `± significand * 2 ^ exponent`.

A value produced by `Double.round?` is canonical: the significand is below
`2 ^ 53`, and at least `2 ^ 52` unless the exponent is the least one. -/
structure Double where
  negative : Bool
  significand : Nat
  /-- The binary exponent of the significand's unit. -/
  exponent : Int
  deriving Repr, DecidableEq, Inhabited

namespace Double

/-- The least binary exponent of a unit. -/
def minExponent : Int := -1074

/-- The greatest binary exponent of a unit. -/
def maxExponent : Int := 971

/-- The zero of the given sign. -/
def zero (negative : Bool) : Double := ⟨negative, 0, minExponent⟩

/-- Whether the double is one of the two zeros. -/
def isZero (double : Double) : Bool := double.significand == 0

/-- The magnitude's numerator over `denominator`. -/
def numerator (double : Double) : Nat := double.significand * Nat.pow 2 double.exponent.toNat

/-- The magnitude's denominator, a power of two. -/
def denominator (double : Double) : Nat := Nat.pow 2 (-double.exponent).toNat

/-- Divide and round to the nearest natural number, a tie going to the even one. -/
def roundDiv (num den : Nat) : Nat :=
  let quotient := num / den
  let twice := 2 * (num % den)
  if twice < den then quotient
  else if den < twice then quotient + 1
  else if quotient % 2 = 0 then quotient else quotient + 1

/-- The quotient `num / den` in units of `2 ^ exponent`, as a fraction. -/
def inUnits (num den : Nat) (exponent : Int) : Nat × Nat :=
  (num * Nat.pow 2 (-exponent).toNat, den * Nat.pow 2 exponent.toNat)

/-- The unit in which a positive quotient has 53 significant bits, never below the least one. -/
def unitExponent (num den : Nat) : Int :=
  let guess := (num.log2 : Int) - (den.log2 : Int) - 52
  let scaled := inUnits num den guess
  max minExponent (if scaled.1 / scaled.2 < Nat.pow 2 52 then guess - 1 else guess)

/-- The double nearest to `± num / den`, or `none` beyond the largest one. -/
def round? (negative : Bool) (num den : Nat) : Option Double :=
  if num = 0 then some (zero negative)
  else
    let exponent := unitExponent num den
    let scaled := inUnits num den exponent
    let units := roundDiv scaled.1 scaled.2
    let result : Double :=
      if units = Nat.pow 2 53 then ⟨negative, Nat.pow 2 52, exponent + 1⟩ else ⟨negative, units, exponent⟩
    if maxExponent < result.exponent then none else some result

/-- The rounded product of two magnitudes, under the first one's sign. -/
def mul? (left right : Double) : Option Double :=
  round? left.negative (left.numerator * right.numerator) (left.denominator * right.denominator)

/-- The rounded quotient of two magnitudes, under the first one's sign. -/
def div? (left right : Double) : Option Double :=
  round? left.negative (left.numerator * right.denominator) (left.denominator * right.numerator)

/-- The double nearest to `± digits * 10 ^ exponent`. -/
def ofDecimal? (negative : Bool) (digits : Nat) (exponent : Int) : Option Double :=
  round? negative (digits * Nat.pow 10 exponent.toNat) (Nat.pow 10 (-exponent).toNat)

end Double

end ErrorCatalog
