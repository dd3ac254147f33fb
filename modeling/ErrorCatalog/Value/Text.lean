import ErrorCatalog.Value
import ErrorCatalog.Decimal.Shortest

/-!
# Compact text of values

`Value.compact` writes a value as JSON without blanks, object fields in the
order of their names. `Value.text` is the same except that a string stands for
itself.

A double is written with the fewest digits that read back. It is positional
with at least one decimal while its leading digit is worth between `1e-5` and
`1e15`, and has a signed exponent otherwise.
-/

namespace ErrorCatalog

/-- The lower-case hexadecimal digit of a number below sixteen. -/
def hexDigit (value : Nat) : Char := Nat.digitChar value

/-- How the digits of a double are laid out. -/
structure DoubleLayout where
  /-- The least power of ten of a leading digit that is written positionally. -/
  minPositional : Int
  /-- The greatest power of ten of a leading digit that is written positionally. -/
  maxPositional : Int

namespace DoubleLayout

/-- Digits with a point after the first one, if more follow. -/
def scientific (digits : List Char) : List Char :=
  match digits with
  | [] => []
  | [first] => [first]
  | first :: rest => first :: '.' :: rest

/-- The exponent mark with an explicit sign. -/
def exponentMark (power : Int) : List Char :=
  'e' :: (if power < 0 then '-' else '+') :: Nat.toDigits 10 power.natAbs

/-- Digits whose last one is worth `10 ^ exponent`, written positionally with at least
one decimal. -/
def positional (digits : List Char) (exponent : Int) : List Char :=
  if 0 ≤ exponent then digits ++ List.replicate exponent.toNat '0' ++ ['.', '0']
  else
    let decimals := exponent.natAbs
    let padded := List.replicate (decimals + 1 - digits.length) '0' ++ digits
    let split := padded.length - decimals
    padded.take split ++ '.' :: padded.drop split

/-- The text of a double under a layout. -/
def write (layout : DoubleLayout) (double : Double) : List Char :=
  let decimal := double.shortest
  let digits := Nat.toDigits 10 decimal.digits
  let power := decimal.exponent + digits.length - 1
  let magnitude :=
    if layout.minPositional ≤ power ∧ power ≤ layout.maxPositional then
      positional digits decimal.exponent
    else scientific digits ++ exponentMark power
  if double.negative then '-' :: magnitude else magnitude

end DoubleLayout

/-- Doubles in values are positional from `1e-5` up to `1e15`. -/
def Value.doubleLayout : DoubleLayout := ⟨-5, 15⟩

/-- The text of a number. -/
def Number.text : Number → String
  | .int value => toString value
  | .double value => String.ofList (Value.doubleLayout.write value)

namespace Value

/-- A character inside a quoted string: quotes, backslashes and controls are escaped. -/
def escaped (c : Char) : List Char :=
  if c = '"' then ['\\', '"']
  else if c = '\\' then ['\\', '\\']
  else if c = '\n' then ['\\', 'n']
  else if c = '\r' then ['\\', 'r']
  else if c = '\t' then ['\\', 't']
  else if c.toNat = 8 then ['\\', 'b']
  else if c.toNat = 12 then ['\\', 'f']
  else if c.toNat < 32 then
    ['\\', 'u', '0', '0', hexDigit (c.toNat / 16), hexDigit (c.toNat % 16)]
  else [c]

/-- A string in quotes. -/
def quoted (text : String) : String :=
  String.ofList ('"' :: text.toList.flatMap escaped ++ ['"'])

mutual

/-- The compact JSON text of a value. -/
def compact : Value → String
  | .null => "null"
  | .bool value => if value then "true" else "false"
  | .number value => value.text
  | .string value => quoted value
  | .array items => "[" ++ String.intercalate "," (compactItems items) ++ "]"
  | .object fields => "\x7b" ++ String.intercalate "," (compactFields fields) ++ "\x7d"

/-- The compact texts of the items of an array. -/
def compactItems : List Value → List String
  | [] => []
  | item :: rest => compact item :: compactItems rest

/-- The compact texts of the fields of an object, each with its name. -/
def compactFields : List (String × Value) → List String
  | [] => []
  | (name, value) :: rest => (quoted name ++ ":" ++ compact value) :: compactFields rest

end

/-- The text of a value: a string as it is, anything else as compact JSON. -/
def text : Value → String
  | .string value => value
  | value => value.compact

end Value

end ErrorCatalog
