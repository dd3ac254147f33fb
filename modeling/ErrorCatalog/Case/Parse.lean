import ErrorCatalog.Scope
import ErrorCatalog.Report

/-!
# Parsing messages

What a case makes of one message: nothing if its condition does not match, and
otherwise a report, or an error if the extracted parameters do not fit the case
or a parser cannot be found.
-/

namespace ErrorCatalog

namespace Case

/-- Run the steps of one parameter, if it has any, on a value. -/
def runSteps (compiled : Case) (scopes : List Scope) (steps : Option (List Step)) (value : Value) :
    Except Error Value :=
  match Step.runAll (Scope.resolve? scopes) (steps.getD []) value with
  | .ok value => .ok value
  | .error name => .error (.unresolvedParser name compiled.name)

/-- The values of positional texts from an index on. -/
def positionalValues (compiled : Case) (scopes : List Scope) (steps : List (List Step)) :
    Nat → List String → Except Error (List Value)
  | _, [] => .ok []
  | index, text :: rest => do
      let value ← compiled.runSteps scopes steps[index]? (.string text)
      let values ← positionalValues compiled scopes steps (index + 1) rest
      return value :: values

/-- The values of named texts. -/
def namedValues (compiled : Case) (scopes : List Scope) (steps : Register (List Step)) :
    List (String × String) → Except Error (List (String × Value))
  | [] => .ok []
  | (name, text) :: rest => do
      let value ← compiled.runSteps scopes (steps.find? name) (.string text)
      let values ← namedValues compiled scopes steps rest
      return (name, value) :: values

/-- The parameters of an extraction. Without texts they are empty in the mode of the case. -/
def params (compiled : Case) (scopes : List Scope) : Extraction → Except Error Params
  | .mixed => .error (.mixedCaptures compiled.name)
  | .positional [] => .ok (Params.empty compiled.mode)
  | .positional texts =>
      match compiled.plan with
      | .positional steps => do
          return .positional (← compiled.positionalValues scopes steps 0 texts)
      | .named _ => .error (.captureModeMismatch compiled.name .positional compiled.mode)
  | .named texts =>
      match compiled.plan with
      | .positional _ => .error (.captureModeMismatch compiled.name .named compiled.mode)
      | .named steps => do
          return .named ⟨← compiled.namedValues scopes steps texts.entries⟩

/-- The report on a message that is kept. -/
def keptReport (compiled : Case) (message : String) (context : Fields) : Report where
  message := message
  params := Params.empty compiled.mode
  context := Fields.insert context Report.keptField (.bool true)

/-- The report on a message, if the condition of the case matches it. -/
def parse (compiled : Case) (message : String) (scopes : List Scope) (context : Option Fields) :
    Except Error (Option Report) :=
  match compiled.output with
  | .kept =>
      if compiled.condition.isMatch message then
        .ok (some (compiled.keptReport message (context.getD [])))
      else .ok none
  | .template template =>
      match compiled.condition.extract? message with
      | none => .ok none
      | some extraction => do
          let params ← compiled.params scopes extraction
          return some ⟨template.render params, params, context.getD []⟩

end Case

end ErrorCatalog
