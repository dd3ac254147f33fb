import ErrorCatalog.Decimal.Double
import ErrorCatalog.Register

/-!
# Values

The dynamic values which travel through parsers, contexts and reports. An
object lists its fields in increasing order of their names; `Fields.insert`
keeps that order.
-/

namespace ErrorCatalog

/-- A number is an integer of 64 bits, signed or unsigned, or else a double. -/
inductive Number where
  | int (value : Int)
  | double (value : Double)
  deriving Repr, DecidableEq, Inhabited

namespace Number

/-- The least signed integer of 64 bits. -/
def minSigned : Int := -9223372036854775808

/-- The greatest signed integer of 64 bits. -/
def maxSigned : Int := 9223372036854775807

/-- The greatest unsigned integer of 64 bits. -/
def maxUnsigned : Int := 18446744073709551615

/-- Whether an integer is a signed integer of 64 bits. -/
def isSigned (value : Int) : Bool := minSigned ≤ value ∧ value ≤ maxSigned

/-- Whether an integer is kept exactly: it fits 64 bits, signed or unsigned. -/
def isExact (value : Int) : Bool := minSigned ≤ value ∧ value ≤ maxUnsigned

end Number

/-- Dynamic values. -/
inductive Value where
  | null
  | bool (value : Bool)
  | number (value : Number)
  | string (value : String)
  | array (items : List Value)
  | object (fields : List (String × Value))
  deriving Repr, Inhabited

/-- The fields of an object, sorted by name. -/
abbrev Fields := List (String × Value)

namespace Fields

/-- The value of a field. -/
def find? (fields : Fields) (name : String) : Option Value :=
  Register.findEntry? name fields

/-- Whether a field is present. -/
def contains (fields : Fields) (name : String) : Bool := (fields.find? name).isSome

/-- Put a new field before the first field with a greater name. -/
def place (name : String) (value : Value) : Fields → Fields
  | [] => [(name, value)]
  | field :: rest =>
      if name < field.1 then (name, value) :: field :: rest
      else field :: place name value rest

/-- Replace the first field of a name. -/
def overwrite (name : String) (value : Value) : Fields → Fields
  | [] => []
  | field :: rest =>
      if field.1 = name then (name, value) :: rest else field :: overwrite name value rest

/-- Write a field: an existing one is replaced, a new one goes to its sorted place. -/
def insert (fields : Fields) (name : String) (value : Value) : Fields :=
  if fields.contains name then overwrite name value fields else place name value fields

/-- Write all fields of `others` over `fields`, from left to right. -/
def extend (fields others : Fields) : Fields :=
  others.foldl (fun result field => insert result field.1 field.2) fields

/-- Sort named values into fields; a later value of a name wins. -/
def ofList (fields : List (String × Value)) : Fields := extend [] fields

end Fields

namespace Value

/-- The integer with the given value. -/
def int (value : Int) : Value := .number (.int value)

/-- The natural number with the given value. -/
def nat (value : Nat) : Value := .number (.int value)

/-- The object with the given fields, a later one of a name winning. -/
def ofFields (fields : List (String × Value)) : Value := .object (Fields.ofList fields)

/-- The field of an object; other values have none. -/
def field? : Value → String → Option Value
  | .object fields, name => Fields.find? fields name
  | _, _ => none

end Value

end ErrorCatalog
