import ErrorCatalog.Value

/-!
# Settings and selections

The settings of a catalog and the options of one transformation, and how both
are read from plain values. A structure is read from an object, missing fields
taking their defaults and unknown ones being ignored, or from an array of its
fields in order, of which trailing ones may be missing.
-/

namespace ErrorCatalog

/-- The settings of a catalog. -/
structure Settings where
  /-- The fields of an error object that are searched for a context, in order. -/
  contextFields : List String := ["context", "response", "data"]
  /-- Whether a requested scope that does not exist counts as empty. -/
  createMissingScopes : Bool := true
  deriving Repr, DecidableEq, Inhabited

/-- The cases, scopes and fallback message for a transformation. -/
structure Selection where
  /-- Names of global cases that are tried first. -/
  cases : List String := []
  /-- Names of the scopes whose cases are tried. -/
  scopes : List String := []
  /-- The message for a message that no case matches. -/
  fallback : Option String := none
  deriving Repr, DecidableEq, Inhabited

namespace Value

/-- The strings of an array. -/
def strings? : Value → Option (List String)
  | .array items => items.mapM fun item => match item with
      | .string text => some text
      | _ => none
  | _ => none

/-- A boolean. -/
def bool? : Value → Option Bool
  | .bool value => some value
  | _ => none

/-- A string, or null for none. -/
def optionalString? : Value → Option (Option String)
  | .null => some none
  | .string text => some (some text)
  | _ => none

/-- The string array of the given texts. -/
def ofStrings (texts : List String) : Value := .array (texts.map .string)

/-- The value of each named field of a structure, in the order of the names, as far as it
is present. -/
def members? (names : List String) : Value → Option (List (Option Value))
  | .object fields => some (names.map fun name => Fields.find? fields name)
  | .array items =>
      if items.length ≤ names.length then
        some (items.map some ++ List.replicate (names.length - items.length) none)
      else none
  | _ => none

/-- Read a member of a structure, a missing one taking its default. -/
def member? {α : Type} (default : α) (read : Value → Option α) : Option Value → Option α
  | none => some default
  | some value => read value

end Value

namespace Settings

/-- Read settings from a plain value. -/
def ofValue? (value : Value) : Option Settings := do
  let defaults : Settings := {}
  match ← value.members? ["context_fields", "create_missing_scopes"] with
  | [fields, missing] =>
      return {
        contextFields := ← Value.member? defaults.contextFields Value.strings? fields
        createMissingScopes := ← Value.member? defaults.createMissingScopes Value.bool? missing }
  | _ => none

/-- Settings as a plain value. -/
def toValue (settings : Settings) : Value :=
  Value.ofFields [("context_fields", Value.ofStrings settings.contextFields),
    ("create_missing_scopes", .bool settings.createMissingScopes)]

end Settings

namespace Selection

/-- Read a selection from a plain value. -/
def ofValue? (value : Value) : Option Selection := do
  match ← value.members? ["cases", "scopes", "fallback"] with
  | [cases, scopes, fallback] =>
      return {
        cases := ← Value.member? [] Value.strings? cases
        scopes := ← Value.member? [] Value.strings? scopes
        fallback := ← Value.member? none Value.optionalString? fallback }
  | _ => none

/-- A selection as a plain value. -/
def toValue (selection : Selection) : Value :=
  Value.ofFields [("cases", Value.ofStrings selection.cases),
    ("scopes", Value.ofStrings selection.scopes),
    ("fallback", (selection.fallback.map Value.string).getD .null)]

end Selection

end ErrorCatalog
