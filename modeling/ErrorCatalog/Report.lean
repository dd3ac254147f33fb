import ErrorCatalog.Params

/-!
# Reports

A report is what a message is transformed into: a new message, the parameters
that were extracted, and a context. Two flags of the context tell where the
message comes from.
-/

namespace ErrorCatalog

/-- The outcome of a transformation. -/
structure Report where
  message : String
  params : Params
  /-- The context that came with the message, or a flag. -/
  context : Fields

namespace Report

/-- The context field that marks a message kept as it was. -/
def keptField : String := "original"

/-- The context field that marks a fallback message. -/
def fallbackField : String := "fallback"

/-- Whether the context has a field with exactly the value `true`. -/
def hasFlag (report : Report) (field : String) : Bool :=
  match Fields.find? report.context field with
  | some (.bool true) => true
  | _ => false

/-- Whether the message is marked as kept. -/
def isKept (report : Report) : Bool := report.hasFlag keptField

/-- Whether the message is marked as a fallback. -/
def isFallback (report : Report) : Bool := report.hasFlag fallbackField

/-- The report as a plain object. -/
def toValue (report : Report) : Value :=
  Value.ofFields [("message", .string report.message), ("params", report.params.toValue),
    ("context", .object report.context)]

end Report

end ErrorCatalog
