import ErrorCatalog.Hexadecimal
import ErrorCatalog.Value
import ErrorCatalog.Yaml.Scalar

/-!
# Resolution of scalars

A plain scalar can stand for null, a boolean, an integer or a floating-point
number; any other scalar stands for its text. A standard tag asks for one of
these types. Integers that are written with a sign or in hexadecimal, octal or
binary notation count; a number of several digits that starts with a zero is a
text.
-/

namespace ErrorCatalog

namespace Yaml

/-- What a scalar stands for. -/
inductive Resolved where
  | null
  | bool (value : Bool)
  /-- An integer without a minus sign. -/
  | natural (value : Nat)
  /-- An integer with a minus sign, which stands before zero, too. -/
  | negated (size : Nat)
  /-- A floating-point number; infinities and values that are no numbers are `none`. -/
  | float (value : Option Double)
  | text (text : String)
  deriving Repr, DecidableEq

namespace Resolved

/-- Resolved scalars as values, in which only finite numbers exist. -/
def toValue : Resolved → Value
  | .null => .null
  | .bool value => .bool value
  | .natural value => .nat value
  | .negated size => .int (-size)
  | .float value => (value.map fun double => Value.number (.double double)).getD .null
  | .text content => .string content

end Resolved

namespace Resolution

/-- Whether a text is a word for null. -/
def isNull (text : String) : Bool := ["null", "Null", "NULL", "~"].contains text

/-- The boolean that a text is a word for. -/
def bool? (text : String) : Option Bool :=
  if ["true", "True", "TRUE"].contains text then some true
  else if ["false", "False", "FALSE"].contains text then some false
  else none

/-- The digits of a number in some base; at least one is needed. -/
def natural? (base : Nat) (digits : List Char) : Option Nat :=
  if digits.isEmpty then none
  else digits.foldlM (fun sum c => do
    let digit ← Hexadecimal.digit? c
    if digit < base then some (sum * base + digit) else none) 0

/-- A number in hexadecimal, octal or binary notation. -/
def marked? : List Char → Option Nat
  | '0' :: 'x' :: digits => natural? 16 digits
  | '0' :: 'o' :: digits => natural? 8 digits
  | '0' :: 'b' :: digits => natural? 2 digits
  | _ => none

/-- Whether several digits start with a zero. -/
def isPadded (digits : List Char) : Bool :=
  1 < digits.length && digits.head? = some '0' && digits.all Char.isDigit

/-- A number in any notation, without its sign. -/
def magnitude? (digits : List Char) : Option Nat :=
  (marked? digits).or (if isPadded digits then none else natural? 10 digits)

/-- An integer of any size. -/
def integer? : List Char → Option Resolved
  | '-' :: digits => (magnitude? digits).map .negated
  | '+' :: digits => (magnitude? digits).map .natural
  | digits => (magnitude? digits).map .natural

/-- Whether an integer fits a number of bits. -/
def fits (bits : Nat) : Resolved → Bool
  | .natural value => value < Nat.pow 2 bits
  | .negated size => size ≤ Nat.pow 2 (bits - 1)
  | _ => false

/-- The exponent of a number after its mark. -/
def exponent? (input : List Char) : Option Int :=
  let signed := match input with
    | '+' :: digits => (false, digits)
    | '-' :: digits => (true, digits)
    | digits => (false, digits)
  if signed.2.all Char.isDigit then
    (natural? 10 signed.2).map fun value => if signed.1 then -(value : Int) else value
  else none

/-- The double nearest to `± digits * 10 ^ exponent`, if it is finite. Far outside of the range
of doubles the power of ten need not be computed. -/
def decimal? (negative : Bool) (digits : List Char) (exponent : Int) : Option Double := do
  let value ← natural? 10 digits
  let size : Int := digits.length + exponent
  if value = 0 ∨ size < -400 then return Double.zero negative
  if 400 + digits.length < size then none
  Double.ofDecimal? negative value exponent

/-- A number with a fraction or an exponent or neither, without its sign. At least one digit is
needed in front of the exponent. -/
def unsignedFloat? (negative : Bool) (input : List Char) : Option Double := do
  let whole := input.takeWhile Char.isDigit
  let rest := input.drop whole.length
  let (fraction, rest) := match rest with
    | '.' :: rest =>
        let fraction := rest.takeWhile Char.isDigit
        (fraction, rest.drop fraction.length)
    | rest => ([], rest)
  let exponent ← match rest with
    | [] => some 0
    | mark :: rest => if mark = 'e' ∨ mark = 'E' then exponent? rest else none
  decimal? negative (whole ++ fraction) (exponent - fraction.length)

/-- A floating-point number; the inner value is `none` for those that are not finite. -/
def float? (text : String) : Option (Option Double) :=
  if [".nan", ".NaN", ".NAN"].contains text then some none
  else
    let signed := match text.toList with
      | '+' :: rest => (false, rest)
      | '-' :: rest => (true, rest)
      | rest => (false, rest)
    if [".inf", ".Inf", ".INF"].contains (String.ofList signed.2) then some none
    else (unsignedFloat? signed.1 signed.2).map some

/-- The text after its sign, if it has one. -/
def unsigned : List Char → List Char
  | '-' :: rest => rest
  | '+' :: rest => rest
  | rest => rest

/-- Resolve a text without a tag. Integers of 65 to 128 bits are not accepted, wider ones are
floating-point numbers. -/
def plain? (text : String) : Option Resolved :=
  if text.isEmpty ∨ isNull text then some .null
  else
    match bool? text, (integer? text.toList).filter (fits 128) with
    | some value, _ => some (.bool value)
    | none, some integer => if fits 64 integer then some integer else none
    | none, none =>
        if isPadded (unsigned text.toList) then some (.text text)
        else some (((float? text).map Resolved.float).getD (.text text))

/-- Resolve a text with a tag that stands for a type. -/
def tagged? (tag : Tag) (text : String) : Option Resolved :=
  if tag = Tag.bool then (bool? text).map .bool
  else if tag = Tag.int then (integer? text.toList).filter (fits 64)
  else if tag = Tag.float then (float? text).map .float
  else if tag = Tag.null then if isNull text then some .null else none
  else some (.text text)

end Resolution

/-- What a scalar stands for. A local tag is not accepted; another marked tag does not count for a
plain scalar. -/
def Scalar.resolve? (scalar : Scalar) : Option Resolved :=
  match scalar.tag with
  | some tag =>
      if tag.isLocal then none
      else if tag.isMarked ∧ scalar.style = .plain then Resolution.plain? scalar.text
      else Resolution.tagged? tag scalar.text
  | none =>
      if scalar.style = .plain then Resolution.plain? scalar.text
      else some (.text scalar.text)

end Yaml

end ErrorCatalog
