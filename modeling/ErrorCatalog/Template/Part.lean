import ErrorCatalog.Template
import ErrorCatalog.Value.Text

/-!
# Templates made of parts

Function templates written as a list of parts: literal text, the number of
parameters, and the text of one parameter or of a field of it. Whatever is
absent is written as `<none>`.
-/

namespace ErrorCatalog

namespace Template

/-- How a part names a parameter. -/
inductive ArgumentKey where
  | index (index : Nat)
  | name (name : String)
  deriving Repr, DecidableEq

/-- One part of a template. -/
inductive Part where
  /-- Text that stands for itself. -/
  | text (content : String)
  /-- The number of parameters. -/
  | count
  /-- A parameter, or a field of a parameter that is an object. -/
  | argument (key : ArgumentKey) (field : Option String)
  deriving Repr, DecidableEq

namespace Part

/-- The text for an absent parameter or field. -/
def absent : String := "<none>"

/-- The parameter that a key names. -/
def lookup (params : Params) : ArgumentKey → Option Value
  | .index index => params.at? index
  | .name name => params.get? name

/-- The text of one part. -/
def write (params : Params) : Part → String
  | .text content => content
  | .count => toString params.size
  | .argument key none => ((lookup params key).map Value.text).getD absent
  | .argument key (some field) =>
      (((lookup params key).bind fun value => value.field? field).map Value.text).getD absent

/-- The text of all parts in order. -/
def writeAll (parts : List Part) (params : Params) : String :=
  String.join (parts.map (write params))

end Part

/-- The positional template of some parts. -/
def ofPositionalParts (parts : List Part) : Template :=
  .positional fun values => Part.writeAll parts (.positional values)

/-- The named template of some parts. -/
def ofNamedParts (parts : List Part) : Template :=
  .named fun values => Part.writeAll parts (.named values)

end Template

end ErrorCatalog
