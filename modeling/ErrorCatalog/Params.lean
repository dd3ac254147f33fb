import ErrorCatalog.Register
import ErrorCatalog.Value

/-!
# Parameters

What a case extracts from a message: values by position, or values by name in
the order of their groups. The two modes never mix.
-/

namespace ErrorCatalog

/-- Whether parameters are told apart by position or by name. -/
inductive CaptureMode where
  | positional
  | named
  deriving Repr, DecidableEq

/-- The name of a capture mode. -/
def CaptureMode.name : CaptureMode → String
  | .positional => "positional"
  | .named => "named"

/-- The parameters of a report. -/
inductive Params where
  | positional (values : List Value)
  | named (values : Register Value)

namespace Params

/-- No parameters, in a given mode. -/
def empty : CaptureMode → Params
  | .positional => .positional []
  | .named => .named Register.empty

instance : Inhabited Params := ⟨empty .positional⟩

/-- The mode of the parameters. -/
def mode : Params → CaptureMode
  | .positional _ => .positional
  | .named _ => .named

/-- The number of parameters. -/
def size : Params → Nat
  | .positional values => values.length
  | .named values => values.size

/-- Whether there are no parameters. -/
def isEmpty (params : Params) : Bool := params.size == 0

/-- The parameter at a position; named parameters have no positions. -/
def at? : Params → Nat → Option Value
  | .positional values, index => values[index]?
  | .named _, _ => none

/-- The parameter of a name; positional parameters have no names. -/
def get? : Params → String → Option Value
  | .positional _, _ => none
  | .named values, name => values.find? name

/-- The parameters as a plain array or object. -/
def toValue : Params → Value
  | .positional values => .array values
  | .named values => Value.ofFields values.entries

@[simp] theorem mode_empty (mode : CaptureMode) : (empty mode).mode = mode := by
  cases mode <;> rfl

@[simp] theorem size_empty (mode : CaptureMode) : (empty mode).size = 0 := by
  cases mode <;> rfl

end Params

end ErrorCatalog
