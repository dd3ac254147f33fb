import ErrorCatalog.Error

/-!
# Value parsers

A value parser refines one value: by a function, or by a lookup table which
attaches the fields of an entry to the value.

- `ValueParser.ofSource?` builds a parser and refuses an empty table;
- `LookupTable.apply` keeps the looked-up value under the field `raw`, so that
  the tables of a chain all look up the same key.
-/

namespace ErrorCatalog

/-- Fields to attach, by key. -/
abbrev LookupTable := Register Fields

/-- The two kinds of value parsers. -/
inductive ParserKind where
  | function (apply : Value → Value)
  | table (entries : LookupTable)

/-- A named value parser. -/
structure ValueParser where
  /-- The name under which the parser was built. -/
  name : String
  kind : ParserKind

/-- What a parser can be built from. -/
inductive ParserSource where
  | function (apply : Value → Value)
  | table (entries : LookupTable)
  /-- A parser that is already built and keeps its own name. -/
  | parser (parser : ValueParser)

namespace LookupTable

/-- The field that keeps the looked-up value. -/
def rawField : String := "raw"

/-- The key of a scalar: the text of a string, number or boolean. -/
def scalarKey? : Value → Option String
  | .string text => some text
  | .number number => some number.text
  | .bool value => some (if value then "true" else "false")
  | _ => none

/-- The key of a value. An object is looked up by its `raw` field. -/
def key? : Value → Option String
  | .object fields => (Fields.find? fields rawField).bind scalarKey?
  | value => scalarKey? value

/-- The fields which the fields of an entry are written over: those of an object, or else
the value itself under `raw`. -/
def base : Value → Fields
  | .object fields => fields
  | value => [(rawField, value)]

/-- Attach the fields of the value's entry; without an entry the value is unchanged. -/
def apply (table : LookupTable) (value : Value) : Value :=
  match (key? value).bind table.find? with
  | some entry => .object (Fields.extend (base value) entry)
  | none => value

end LookupTable

namespace ValueParser

/-- The parsed value. -/
def parse (parser : ValueParser) (value : Value) : Value :=
  match parser.kind with
  | .function apply => apply value
  | .table entries => entries.apply value

/-- Whether the parser is a lookup table. -/
def isTable (parser : ValueParser) : Bool :=
  match parser.kind with
  | .function _ => false
  | .table _ => true

/-- A parser that applies a function. -/
def ofFunction (name : String) (apply : Value → Value) : ValueParser := ⟨name, .function apply⟩

/-- A parser that looks up a table, which must not be empty. -/
def ofTable? (name : String) (entries : LookupTable) : Except Error ValueParser :=
  if entries.isEmpty then .error (.emptyLookupTable name) else .ok ⟨name, .table entries⟩

/-- Build a parser from a source. A built parser is taken as it is, under its own name. -/
def ofSource? (name : String) : ParserSource → Except Error ValueParser
  | .function apply => .ok (ofFunction name apply)
  | .table entries => ofTable? name entries
  | .parser parser => .ok parser

end ValueParser

end ErrorCatalog
