import ErrorCatalog.ValueParser

/-!
# Operations

A fixed vocabulary of functions for value parsers.
-/

namespace ErrorCatalog

/-- The functions that a parser may be defined by. -/
inductive Operation where
  /-- The value itself. -/
  | identity
  /-- Always the same value. -/
  | const (value : Value)
  /-- The string with its ASCII letters in upper case. -/
  | upper
  /-- The signed 64-bit integer that the string spells. -/
  | int
  /-- The value plus a number, wrapping around at 64 bits. -/
  | add (amount : Int)
  /-- The text of the value followed by a text. -/
  | append (text : String)
  /-- The value twice in an array. -/
  | pair
  /-- The value as the only field of an object. -/
  | object (key : String)
  /-- A field of the value. -/
  | get (key : String)

namespace Operation

/-- A non-empty run of decimal digits. -/
def digits? (text : List Char) : Option Nat :=
  if text.isEmpty ∨ text.any (fun c => ¬ c.isDigit) then none
  else some (text.foldl (fun sum c => sum * 10 + (c.toNat - '0'.toNat)) 0)

/-- The signed 64-bit integer spelled by digits after an optional sign. -/
def int? (text : String) : Option Int := do
  let value : Int ← match text.toList with
    | '-' :: rest => (digits? rest).map fun digits => -(digits : Int)
    | '+' :: rest => (digits? rest).map Int.ofNat
    | rest => (digits? rest).map Int.ofNat
  if Number.isSigned value then some value else none

/-- A character with an ASCII letter in upper case. -/
def upperAscii (c : Char) : Char :=
  if 'a' ≤ c ∧ c ≤ 'z' then Char.ofNat (c.toNat - 32) else c

/-- The signed 64-bit integer of a value; zero for any other value. -/
def summand : Value → Int
  | .number (.int value) => if Number.isSigned value then value else 0
  | _ => 0

/-- The result of an operation. -/
def apply : Operation → Value → Value
  | identity, value => value
  | const result, _ => result
  | upper, .string text => .string (String.ofList (text.toList.map upperAscii))
  | upper, _ => .string ""
  | int, .string text => .int ((int? text).getD 0)
  | int, _ => .int 0
  | add amount, value => .int ((summand value + amount).bmod (Nat.pow 2 64))
  | append text, value => .string (value.text ++ text)
  | pair, value => .array [value, value]
  | object key, value => .object [(key, value)]
  | get key, value => (value.field? key).getD .null

end Operation

end ErrorCatalog
