import ErrorCatalog.Hexadecimal
import ErrorCatalog.Value

/-!
# Reading values

A reader of JSON text. A number without fraction and exponent is kept exactly
when it fits 64 bits; any other number is a double, `-0` included. The
significand of a double is read into 64 bits first, digits beyond that only
count towards the exponent, and then scaled by a power of ten with one
rounding per step. A later field of an object wins over an earlier one of the
same name.
-/

namespace ErrorCatalog

namespace Value

namespace Reader

/-- The value of a decimal digit. -/
def digit? (c : Char) : Option Nat :=
  if '0' ≤ c ∧ c ≤ '9' then some (c.toNat - '0'.toNat) else none

/-- Drop the blanks of JSON. -/
def skipBlanks : List Char → List Char
  | c :: rest =>
      if c = ' ' ∨ c = '\n' ∨ c = '\r' ∨ c = '\t' then skipBlanks rest else c :: rest
  | [] => []

/-- Split off the leading decimal digits. -/
def spanDigits : List Char → List Nat × List Char
  | [] => ([], [])
  | c :: rest =>
      match digit? c with
      | some digit =>
          let tail := spanDigits rest
          (digit :: tail.1, tail.2)
      | none => ([], c :: rest)

/-- Read digits onto a significand while it fits 64 bits; the count of digits taken comes
with it. -/
def accumulate (significand : Nat) : List Nat → Nat × Nat
  | [] => (significand, 0)
  | digit :: rest =>
      let next := significand * 10 + digit
      if Number.maxUnsigned < next then (significand, 0)
      else
        let tail := accumulate next rest
        (tail.1, tail.2 + 1)

/-- Scale by `10 ^ exponent` with at most `fuel` further divisions by `1e308`. -/
def scale? (double : Double) (exponent : Int) : Nat → Option Double
  | 0 => some double
  | fuel + 1 =>
      if exponent.natAbs ≤ 308 then do
        let power ← Double.ofDecimal? false 1 exponent.natAbs
        if 0 ≤ exponent then double.mul? power else double.div? power
      else if double.isZero then some double
      else if 0 ≤ exponent then none
      else do
        let power ← Double.ofDecimal? false 1 308
        let smaller ← double.div? power
        scale? smaller (exponent + 308) fuel

/-- The double `± significand * 10 ^ exponent`, or `none` when it is out of range.

Dividing four times by `1e308` already leaves zero. -/
def double? (negative : Bool) (significand : Nat) (exponent : Int) : Option Value := do
  let double ← Double.round? negative significand 1
  let scaled ← scale? double exponent 5
  return .number (.double scaled)

/-- The exponent of a number after its mark, saturating at 32 bits. -/
def exponent? (input : List Char) : Option (Int × List Char) :=
  let signed := match input with
    | '+' :: rest => (false, rest)
    | '-' :: rest => (true, rest)
    | rest => (false, rest)
  match spanDigits signed.2 with
  | ([], _) => none
  | (digits, rest) =>
      let magnitude : Nat := min (digits.foldl (fun sum digit => sum * 10 + digit) 0) 2147483647
      some (if signed.1 then -(magnitude : Int) else magnitude, rest)

/-- A number without its leading sign. -/
def number? (negative : Bool) (input : List Char) : Option (Value × List Char) := do
  let (digits, rest) := spanDigits input
  if digits.isEmpty ∨ (digits.head? = some 0 ∧ 1 < digits.length) then none
  let (whole, taken) := accumulate 0 digits
  let dropped := digits.length - taken
  let (fraction, rest, hasFraction) ← match rest with
    | '.' :: rest =>
        let (fraction, rest) := spanDigits rest
        if fraction.isEmpty then none else some (fraction, rest, true)
    | rest => some ([], rest, false)
  let (significand, decimals) := if dropped = 0 then accumulate whole fraction else (whole, 0)
  let base : Int := (dropped : Int) - decimals
  let fits := dropped = 0 ∧ ¬ hasFraction
  let whenPlain (rest : List Char) : Option (Value × List Char) :=
    if fits ∧ ¬ negative then some (.int significand, rest)
    else if fits ∧ 0 < significand ∧ Number.isExact (-(significand : Int)) then
      some (.int (-(significand : Int)), rest)
    else do return (← double? negative significand base, rest)
  match rest with
  | c :: afterMark =>
      if c = 'e' ∨ c = 'E' then
        let (power, rest) ← exponent? afterMark
        return (← double? negative significand (base + power), rest)
      else whenPlain rest
  | [] => whenPlain []

/-- The value of four hexadecimal digits. -/
def hexQuad? : List Char → Option (Nat × List Char)
  | a :: b :: c :: d :: rest => (Hexadecimal.value? [a, b, c, d]).map fun value => (value, rest)
  | _ => none

/-- The character of an escape sequence, after the backslash. -/
def escape? : List Char → Option (Char × List Char)
  | '"' :: rest => some ('"', rest)
  | '\\' :: rest => some ('\\', rest)
  | '/' :: rest => some ('/', rest)
  | 'b' :: rest => some (Char.ofNat 8, rest)
  | 'f' :: rest => some (Char.ofNat 12, rest)
  | 'n' :: rest => some ('\n', rest)
  | 'r' :: rest => some ('\r', rest)
  | 't' :: rest => some ('\t', rest)
  | 'u' :: rest => do
      let (unit, rest) ← hexQuad? rest
      if 0xD800 ≤ unit ∧ unit < 0xDC00 then
        match rest with
        | '\\' :: 'u' :: rest =>
            let (low, rest) ← hexQuad? rest
            if 0xDC00 ≤ low ∧ low < 0xE000 then
              return (Char.ofNat (0x10000 + (unit - 0xD800) * 1024 + (low - 0xDC00)), rest)
            else none
        | _ => none
      else if 0xDC00 ≤ unit ∧ unit < 0xE000 then none
      else return (Char.ofNat unit, rest)
  | _ => none

/-- The characters of a string after its opening quote, read in at most `fuel` steps. -/
def string? : Nat → List Char → List Char → Option (String × List Char)
  | 0, _, _ => none
  | _ + 1, _, [] => none
  | fuel + 1, read, c :: rest =>
      if c = '"' then some (String.ofList read.reverse, rest)
      else if c = '\\' then do
        let (escaped, rest) ← escape? rest
        string? fuel (escaped :: read) rest
      else if c.toNat < 32 then none
      else string? fuel (c :: read) rest

/-- What the reader expects next. -/
inductive Goal where
  /-- A value. -/
  | value
  /-- The items of an array after the ones already read, newest first. -/
  | items (read : List Value)
  /-- The fields of an object after the ones already read, newest first. -/
  | fields (read : List (String × Value))

/-- Remove the given characters from the front. -/
def literal? (word : List Char) (input : List Char) : Option (List Char) :=
  if word.isPrefixOf input then some (input.drop word.length) else none

/-- Read what is expected, in at most `fuel` nested or successive steps. -/
def read? : Nat → Goal → List Char → Option (Value × List Char)
  | 0, _, _ => none
  | fuel + 1, .value, input =>
      match skipBlanks input with
      | '"' :: rest => do
          let (text, rest) ← string? (fuel + 1) [] rest
          return (.string text, rest)
      | '[' :: rest =>
          match skipBlanks rest with
          | ']' :: rest => some (.array [], rest)
          | rest => read? fuel (.items []) rest
      | '\x7b' :: rest =>
          match skipBlanks rest with
          | '\x7d' :: rest => some (.object [], rest)
          | rest => read? fuel (.fields []) rest
      | '-' :: rest => number? true rest
      | 'n' :: rest => do return (.null, ← literal? ['u', 'l', 'l'] rest)
      | 't' :: rest => do return (.bool true, ← literal? ['r', 'u', 'e'] rest)
      | 'f' :: rest => do return (.bool false, ← literal? ['a', 'l', 's', 'e'] rest)
      | rest => number? false rest
  | fuel + 1, .items read, input => do
      let (item, rest) ← read? fuel .value input
      match skipBlanks rest with
      | ',' :: rest => read? fuel (.items (item :: read)) rest
      | ']' :: rest => return (.array (item :: read).reverse, rest)
      | _ => none
  | fuel + 1, .fields read, input =>
      match skipBlanks input with
      | '"' :: rest => do
          let (name, rest) ← string? (fuel + 1) [] rest
          match skipBlanks rest with
          | ':' :: rest =>
              let (value, rest) ← read? fuel .value rest
              match skipBlanks rest with
              | ',' :: rest => read? fuel (.fields ((name, value) :: read)) rest
              | '\x7d' :: rest => return (ofFields ((name, value) :: read).reverse, rest)
              | _ => none
          | _ => none
      | _ => none

end Reader

/-- Read a text that holds exactly one JSON value. -/
def ofJson? (text : String) : Option Value := do
  let input := text.toList
  let (value, rest) ← Reader.read? (input.length + 1) .value input
  if (Reader.skipBlanks rest).isEmpty then some value else none

end Value

end ErrorCatalog
