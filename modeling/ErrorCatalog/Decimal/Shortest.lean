import ErrorCatalog.Decimal.Double

/-!
# Shortest decimals

The fewest decimal digits that read back to a given double, and among those
the nearest ones. The reals which round to a double form an interval around
it; `Double.shortest` takes the first grid of `1, 2, …, 17` digits that has a
point in the interval.
-/

namespace ErrorCatalog

namespace Double

/-- A decimal `digits * 10 ^ exponent`. -/
structure Decimal where
  digits : Nat
  /-- The power of ten of the last digit. -/
  exponent : Int
  deriving Repr, DecidableEq

namespace Decimal

/-- Move trailing zeros of the digits into the exponent, at most `fuel` of them. -/
def trimmed : Nat → Decimal → Decimal
  | 0, decimal => decimal
  | fuel + 1, decimal =>
      if decimal.digits ≠ 0 ∧ decimal.digits % 10 = 0 then
        trimmed fuel ⟨decimal.digits / 10, decimal.exponent + 1⟩
      else decimal

end Decimal

/-- The interval of reals rounding to a double, as fractions over one denominator. -/
structure Neighbourhood where
  low : Nat
  centre : Nat
  high : Nat
  denominator : Nat
  /-- Whether the ends themselves round to the double. -/
  closed : Bool
  deriving Repr

/-- The reals that round to the magnitude of `double`.

The gap below a power of two is half as wide as the one above it. An end rounds to
the double exactly when its significand is even. -/
def neighbourhood (double : Double) : Neighbourhood :=
  let scale := Nat.pow 2 double.exponent.toNat
  let narrow := double.significand = Nat.pow 2 52 ∧ minExponent < double.exponent
  { low := (4 * double.significand - if narrow then 1 else 2) * scale
    centre := 4 * double.significand * scale
    high := (4 * double.significand + 2) * scale
    denominator := 4 * double.denominator
    closed := double.significand % 2 == 0 }

/-- The power of ten of the leading digit of a positive fraction. -/
def leadingPower (num den : Nat) : Int :=
  if den ≤ num then ((Nat.toDigits 10 (num / den)).length : Int) - 1
  else -((Nat.toDigits 10 (den / num)).length : Int)

namespace Neighbourhood

/-- Whether the decimal `digits * 10 ^ exponent` rounds to the double. -/
def admits (interval : Neighbourhood) (digits : Nat) (exponent : Int) : Bool :=
  let point := digits * Nat.pow 10 exponent.toNat * interval.denominator
  let scale := Nat.pow 10 (-exponent).toNat
  if interval.closed then interval.low * scale ≤ point ∧ point ≤ interval.high * scale
  else interval.low * scale < point ∧ point < interval.high * scale

/-- The decimal on the grid of `10 ^ exponent` that is nearest to the double among those
in the interval, a tie going to the even digit. -/
def onGrid? (interval : Neighbourhood) (exponent : Int) : Option Decimal :=
  let num := interval.centre * Nat.pow 10 (-exponent).toNat
  let den := interval.denominator * Nat.pow 10 exponent.toNat
  let below := num / den
  let near := roundDiv num den
  let far := if near = below then below + 1 else below
  if interval.admits near exponent then some ⟨near, exponent⟩
  else if interval.admits far exponent then some ⟨far, exponent⟩
  else none

/-- The first hit on the grids of `count, count + 1, …` digits, `fuel` grids in all. -/
def firstHit (interval : Neighbourhood) (leading : Int) : Nat → Nat → Decimal
  | 0, _ => ⟨interval.centre, 0⟩
  | fuel + 1, count =>
      (interval.onGrid? (leading - count + 1)).getD (interval.firstHit leading fuel (count + 1))

end Neighbourhood

/-- The shortest decimal that reads back to the magnitude of `double`. -/
def shortest (double : Double) : Decimal :=
  if double.isZero then ⟨0, 0⟩
  else
    let interval := double.neighbourhood
    let leading := leadingPower double.numerator double.denominator
    (interval.firstHit leading 17 1).trimmed 17

end Double

end ErrorCatalog
