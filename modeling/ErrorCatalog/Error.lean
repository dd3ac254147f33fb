import ErrorCatalog.Params
import ErrorCatalog.Value.Text

/-!
# Errors

Everything that can go wrong when definitions are registered, rules are read,
or a message is transformed. `Error.kind` says in which of these activities an
error arises, `Error.message` is its wording.
-/

namespace ErrorCatalog

/-- The activity that an error belongs to. -/
inductive ErrorKind where
  /-- A case, parser or scope is defined wrongly. -/
  | definition
  /-- A name does not lead to a scope, case or parser. -/
  | resolution
  /-- A matching case cannot treat the message. -/
  | matching
  /-- The input is no message. -/
  | input
  /-- A rule file cannot be read. -/
  | config
  deriving Repr, DecidableEq

/-- The name of an error kind. -/
def ErrorKind.name : ErrorKind → String
  | .definition => "definition"
  | .resolution => "resolution"
  | .matching => "match"
  | .input => "input"
  | .config => "config"

/-- The properties that a case definition must have. -/
inductive RequiredProperty where
  | name
  | condition
  | message
  deriving Repr, DecidableEq

/-- The word for a required property. -/
def RequiredProperty.word : RequiredProperty → String
  | .name => "name"
  | .condition => "condition"
  | .message => "message"

/-- The errors of the library. -/
inductive Error where
  /-- A case definition lacks a property. -/
  | missingProperty (property : RequiredProperty)
  /-- The pattern of a condition does not compile. -/
  | invalidPattern (caseName : String)
  /-- A lookup table has no entries. -/
  | emptyLookupTable (parser : String)
  /-- A function template and the parse instructions expect different modes. -/
  | templateModeMismatch (caseName : String) (template instructions : CaptureMode)
  /-- The scope already has a case of this name. -/
  | duplicateCase (caseName scope : String)
  /-- The scope already has a parser of this name. -/
  | duplicateParser (parser scope : String)
  /-- A scope of this name exists and may not be overwritten. -/
  | scopeExists (scope : String)
  /-- The global scope can be neither removed nor replaced. -/
  | globalScopeRemoval
  /-- No scope has this name. -/
  | scopeNotFound (scope : String)
  /-- The scope has no case of this name. -/
  | caseNotFound (caseName scope : String)
  /-- The scope has no parser of this name. -/
  | parserNotFound (parser scope : String)
  /-- The groups that took part in a match are all of the mode that was not declared. -/
  | captureModeMismatch (caseName : String) (captured declared : CaptureMode)
  /-- Named and unnamed groups took part in one match. -/
  | mixedCaptures (caseName : String)
  /-- A parser reference leads nowhere. -/
  | unresolvedParser (parser caseName : String)
  /-- The input is neither a string nor an object with a message. -/
  | invalidInput (given : Value)
  /-- A rule file cannot be loaded. -/
  | unreadableRules (path reason : String)
  /-- A rule file does not have the form of one. -/
  | malformedRules

namespace Error

/-- The activity in which an error arises. -/
def kind : Error → ErrorKind
  | missingProperty .. | invalidPattern .. | emptyLookupTable .. | templateModeMismatch ..
  | duplicateCase .. | duplicateParser .. | scopeExists .. | globalScopeRemoval => .definition
  | scopeNotFound .. | caseNotFound .. | parserNotFound .. => .resolution
  | captureModeMismatch .. | mixedCaptures .. | unresolvedParser .. => .matching
  | invalidInput .. => .input
  | unreadableRules .. | malformedRules => .config

/-- The wording of an error. -/
def message : Error → String
  | missingProperty property =>
      s!"The '{property.word}' property is required on a case definition"
  | invalidPattern caseName => s!"'{caseName}': invalid condition pattern"
  | emptyLookupTable parser =>
      s!"'{parser}': the parser is empty. It should include at least one item to map"
  | templateModeMismatch caseName template instructions =>
      s!"'{caseName}': a {template.name} message template can't be used with " ++
        s!"{instructions.name} 'parse' instructions"
  | duplicateCase caseName scope =>
      s!"The case name '{caseName}' is already being used on the scope '{scope}'"
  | duplicateParser parser scope =>
      s!"The parser name '{parser}' is already being used on the scope '{scope}'"
  | scopeExists scope =>
      s!"The scope '{scope}' already exists. You can use 'remove_scope' to remove it first, " ++
        "or set the 'overwrite' parameter to 'true'"
  | globalScopeRemoval => "You can't delete the global scope"
  | scopeNotFound scope => s!"The scope '{scope}' doesn't exist"
  | caseNotFound caseName scope => s!"The case '{caseName}' doesn't exist on the scope '{scope}'"
  | parserNotFound parser scope => s!"The parser '{parser}' doesn't exist on the scope '{scope}'"
  | captureModeMismatch caseName captured declared =>
      s!"The condition for the case '{caseName}' returned {captured.name} parameters, " ++
        s!"but the 'parse' instructions were set on a {declared.name} format"
  | mixedCaptures caseName =>
      s!"The condition for the case '{caseName}' is trying to extract parameters as named " ++
        "and unnamed groups, only one method is allowed"
  | unresolvedParser parser caseName =>
      s!"No parser with the name of '{parser}' could be found for the case '{caseName}'"
  | invalidInput given =>
      "Invalid error input: only error messages (strings) or objects with a string 'message' " ++
        s!"field can be transformed, got {given.compact}"
  | unreadableRules path reason => s!"Failed to read rules file {path}: {reason}"
  | malformedRules => "Failed to parse rules"

end Error

end ErrorCatalog
