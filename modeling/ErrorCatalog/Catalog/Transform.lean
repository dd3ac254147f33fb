import ErrorCatalog.Catalog
import ErrorCatalog.Case.Parse

/-!
# Transforming messages

A message is offered to candidate cases in turn; the first one whose condition
matches decides. If none matches, the report holds the fallback message, or
else the message itself.

- `Catalog.normalise` reads the message and its context from the input;
- `Catalog.candidates` lists the cases, `Catalog.visible` the scopes whose
  parsers they may use;
- `Catalog.transform` puts these together.
-/

namespace ErrorCatalog

/-- What can be transformed: a message, or an object with a field for it. -/
inductive Input where
  | message (text : String)
  | object (fields : Fields)

namespace Input

/-- The field of an object that holds its message. -/
def messageField : String := "message"

/-- The message of an object. -/
def message? (fields : Fields) : Option String :=
  match Fields.find? fields messageField with
  | some (.string text) => some text
  | _ => none

/-- Take a value as input: a string, or an object with a message. -/
def ofValue (value : Value) : Except Error Input :=
  match value with
  | .string text => .ok (.message text)
  | .object fields =>
      if (message? fields).isSome then .ok (.object fields) else .error (.invalidInput value)
  | _ => .error (.invalidInput value)

end Input

namespace Catalog

/-- The context in an object, found under the first configured field that is present. A null
there means none, an object is the context itself, and any other value is kept under its
field. -/
def searchContext (catalog : Catalog) (fields : Fields) : Option Fields := do
  let field ← catalog.settings.contextFields.find? fun field => Fields.contains fields field
  match Fields.find? fields field with
  | none => none
  | some .null => none
  | some (.object context) => some context
  | some value => some [(field, value)]

/-- The message and the context of an input. -/
def normalise (catalog : Catalog) : Input → Except Error (String × Option Fields)
  | .message text => .ok (text, none)
  | .object fields =>
      match Input.message? fields with
      | some text => .ok (text, catalog.searchContext fields)
      | none => .error (.invalidInput (.object fields))

/-- The scope of a requested name. A missing one is skipped or an error, as is set. -/
def requestedScope (catalog : Catalog) (name : String) : Except Error (Option Scope) :=
  match catalog.findScope? name with
  | some scope => .ok (some scope)
  | none =>
      if catalog.settings.createMissingScopes then .ok none else .error (.scopeNotFound name)

/-- The existing scopes among requested names, in order. -/
def requestedScopes (catalog : Catalog) : List String → Except Error (List Scope)
  | [] => .ok []
  | name :: rest => do
      let scope ← catalog.requestedScope name
      let scopes ← catalog.requestedScopes rest
      return scope.toList ++ scopes

/-- The cases of some names in a scope, all of which must exist. -/
def namedCases (scope : Scope) : List String → Except Error (List Case)
  | [] => .ok []
  | name :: rest => do
      let found ← scope.getCase name
      let cases ← namedCases scope rest
      return found :: cases

/-- Whether the global scope is asked for by name. -/
def asksForGlobal (selection : Selection) : Bool := selection.scopes.contains globalName

/-- The global cases that are tried first. Names are ignored when the global scope is asked
for, as its cases are then all tried in its place. -/
def explicitCases (catalog : Catalog) (selection : Selection) : Except Error (List Case) :=
  if asksForGlobal selection then .ok [] else namedCases catalog.global selection.cases

/-- The names of the scopes whose cases are tried: those asked for, and the global one last
if neither it nor any of its cases is asked for. -/
def searchedNames (selection : Selection) : List String :=
  if selection.cases.isEmpty && !asksForGlobal selection then selection.scopes ++ [globalName]
  else selection.scopes

/-- The cases that are tried in turn and the scopes whose parsers they may use. -/
structure Plan where
  /-- The cases, in the order in which they are tried. -/
  candidates : List Case
  /-- The scopes, in the order in which parsers are looked up. -/
  visible : List Scope

/-- The plan for a selection. The global scope is always visible, last unless asked for. -/
def plan (catalog : Catalog) (selection : Selection) : Except Error Plan := do
  let explicit ← catalog.explicitCases selection
  let searched ← catalog.requestedScopes (searchedNames selection)
  let includesGlobal := (searchedNames selection).contains globalName
  return {
    candidates := explicit ++ searched.flatMap fun scope => scope.cases.values
    visible := if includesGlobal then searched else searched ++ [catalog.global] }

/-- The report of the first case that makes one, up to the first error. -/
def firstReport (message : String) (visible : List Scope) (context : Option Fields) :
    List Case → Except Error (Option Report)
  | [] => .ok none
  | candidate :: rest =>
      match candidate.parse message visible context with
      | .error error => .error error
      | .ok (some report) => .ok (some report)
      | .ok none => firstReport message visible context rest

/-- The report on a message that no case matches. An empty fallback is none. -/
def unmatchedReport (message : String) (fallback : Option String) : Report :=
  match fallback.filter (fun text => !text.isEmpty) with
  | some text =>
      ⟨text, Params.empty .named, Fields.ofList [(Report.fallbackField, .bool true)]⟩
  | none =>
      ⟨message, Params.empty .named, Fields.ofList [(Report.keptField, .bool true)]⟩

/-- Transform a message. -/
def transform (catalog : Catalog) (input : Input) (selection : Selection) :
    Except Error Report := do
  let (message, context) ← catalog.normalise input
  let plan ← catalog.plan selection
  let report ← firstReport message plan.visible context plan.candidates
  return report.getD (unmatchedReport message selection.fallback)

/-- A catalog with a selection for many messages. -/
structure Bound where
  catalog : Catalog
  selection : Selection

/-- Bind a selection to a catalog. -/
def bind (catalog : Catalog) (cases scopes : List String) (fallback : Option String) : Bound :=
  ⟨catalog, { cases, scopes, fallback }⟩

/-- Bind a selection of scopes to a catalog. -/
def bindScopes (catalog : Catalog) (scopes : List String) (fallback : Option String) : Bound :=
  catalog.bind [] scopes fallback

/-- Transform a message with the bound selection. -/
def Bound.call (bound : Bound) (input : Input) : Except Error Report :=
  bound.catalog.transform input bound.selection

/-- Transform a message with another fallback; an empty one leaves the bound one in force. -/
def Bound.callWithFallback (bound : Bound) (input : Input) (fallback : String) :
    Except Error Report :=
  if fallback.isEmpty then bound.call input
  else bound.catalog.transform input { bound.selection with fallback := some fallback }

end Catalog

end ErrorCatalog
