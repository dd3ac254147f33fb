import ErrorCatalog.Instruction
import ErrorCatalog.Template
import ErrorCatalog.Value.Outline

/-!
# Outlines of definitions

The outlines of parsers, templates and parse instructions. Functions have no
text of their own and are written as `..`.
-/

namespace ErrorCatalog

namespace Outline

/-- The outline of something that cannot be written. -/
def hidden : String := ".."

end Outline

/-- The outline of a lookup table. -/
def LookupTable.outline (table : LookupTable) : String :=
  Outline.mapped (table.entries.map fun entry =>
    (entry.1, Outline.mapped (Value.outlineFields entry.2)))

/-- The outline of a parser: its name and kind. -/
def ValueParser.outline (parser : ValueParser) : String :=
  let kind := if parser.isTable then "table" else "function"
  "ValueParser \x7b name: " ++ Outline.quoted parser.name ++ ", kind: " ++ Outline.quoted kind ++
    " \x7d"

/-- The outline of what a parser is built from. -/
def ParserSource.outline : ParserSource → String
  | .function _ => Outline.wrapped "Function" Outline.hidden
  | .table entries => Outline.wrapped "Table" (LookupTable.outline entries)
  | .parser built => Outline.wrapped "Parser" (Outline.quoted built.name)

/-- The outline of a template. -/
def Template.outline : Template → String
  | .fixed text => Outline.wrapped "Static" (Outline.quoted text)
  | .positional _ => Outline.wrapped "Positional" Outline.hidden
  | .named _ => Outline.wrapped "Named" Outline.hidden

namespace Instruction

mutual

/-- The outline of a parse instruction. -/
def outline : Instruction → String
  | .function _ => Outline.wrapped "Function" Outline.hidden
  | .parser built => Outline.wrapped "Parser" (Outline.quoted built.name)
  | .reference name => Outline.wrapped "Reference" (Outline.quoted name)
  | .chain items => Outline.wrapped "Chain" (Outline.listed (outlineItems items))

/-- The outlines of the items of a chain. -/
def outlineItems : List Instruction → List String
  | [] => []
  | item :: rest => item.outline :: outlineItems rest

end

end Instruction

end ErrorCatalog
