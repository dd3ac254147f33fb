import ErrorCatalog.Condition
import ErrorCatalog.Instruction
import ErrorCatalog.Template

/-!
# Cases

A case recognises messages by a condition and says what becomes of them: they
are kept as they are, or replaced by a template after their parameters have
been parsed. A definition is compiled once; all that can be wrong with it is
found then, except for names that only the scopes can resolve.
-/

namespace ErrorCatalog

/-- Where a definition was written: a document and a place in it. Two cases of one origin are
the same case. -/
structure Origin where
  document : Nat
  place : List Nat
  deriving Repr, DecidableEq, Inhabited

/-- How the parameters of a case are parsed. -/
inductive ParseDefinition where
  | positional (instructions : List Instruction)
  | named (instructions : Register Instruction)

/-- The mode of the parameters that are parsed. -/
def ParseDefinition.mode : ParseDefinition → CaptureMode
  | .positional _ => .positional
  | .named _ => .named

/-- A case as it is written. -/
structure CaseDefinition where
  /-- The name, which must not be empty. -/
  name : String
  condition : ConditionSpec
  /-- The template for new messages; only cases that keep their messages can do without. -/
  message : Option Template := none
  /-- Whether messages are kept as they are. -/
  keepsMessage : Bool := false
  parsers : Register ParserSource := Register.empty
  parse : Option ParseDefinition := none
  /-- The scope that the case belongs to, if it names one. -/
  scope : Option String := none
  origin : Origin := default

/-- What becomes of a matching message. -/
inductive Output where
  /-- It is kept. -/
  | kept
  /-- It is replaced by the text of a template. -/
  | template (template : Template)

/-- The mode that the output requires of parameters, if any. -/
def Output.mode? : Output → Option CaptureMode
  | .kept => none
  | .template message => message.mode?

/-- Compiled parse instructions. -/
inductive ParsePlan where
  | positional (steps : List (List Step))
  | named (steps : Register (List Step))

/-- The mode of the parameters that are parsed. -/
def ParsePlan.mode : ParsePlan → CaptureMode
  | .positional _ => .positional
  | .named _ => .named

/-- A compiled case. -/
structure Case where
  name : String
  condition : Condition
  output : Output
  parsers : Register ValueParser
  plan : ParsePlan
  origin : Origin

namespace ParseDefinition

/-- The instructions for no parameters, in a given mode. -/
def empty : CaptureMode → ParseDefinition
  | .positional => .positional []
  | .named => .named Register.empty

/-- Compile positional instructions from an index on, up to the first one that is refused. -/
def buildPositionalSteps (locals : Register ValueParser) (caseName : String) (index : Nat) :
    List Instruction → Except Error (List (List Step))
  | [] => return []
  | instruction :: rest => do
      let first ← instruction.buildSteps locals s!"{caseName}-parser-{index}"
      let later ← buildPositionalSteps locals caseName (index + 1) rest
      return first :: later

/-- Compile named instructions, up to the first one that is refused. -/
def buildNamedSteps (locals : Register ValueParser) (caseName : String) :
    List (String × Instruction) → Except Error (List (String × List Step))
  | [] => return []
  | (name, instruction) :: rest => do
      let first ← instruction.buildSteps locals s!"{caseName}-parser-{name}"
      let later ← buildNamedSteps locals caseName rest
      return (name, first) :: later

/-- Compile parse instructions. -/
def buildPlan (locals : Register ValueParser) (caseName : String) :
    ParseDefinition → Except Error ParsePlan
  | .positional instructions => do
      return .positional (← buildPositionalSteps locals caseName 0 instructions)
  | .named instructions => do
      return .named ⟨← buildNamedSteps locals caseName instructions.entries⟩

end ParseDefinition

namespace Case

/-- The output that a definition asks for. -/
def output? (definition : CaseDefinition) : Except Error Output :=
  if definition.keepsMessage then .ok .kept
  else
    match definition.message with
    | some template => .ok (.template template)
    | none => .error (.missingProperty .message)

/-- Build the parsers of a case under their names. -/
def buildParsers : List (String × ParserSource) → Except Error (List (String × ValueParser))
  | [] => .ok []
  | (name, source) :: rest => do
      let parser ← ValueParser.ofSource? name source
      let others ← buildParsers rest
      return (name, parser) :: others

/-- The instructions of a definition: without any, there are none in the mode that the output
requires. -/
def instructions (definition : CaseDefinition) (output : Output) : ParseDefinition :=
  definition.parse.getD (ParseDefinition.empty (output.mode?.getD .positional))

/-- A function template requires instructions of its own mode. -/
def checkMode (name : String) (output : Output) (parse : ParseDefinition) : Except Error Unit :=
  match output.mode? with
  | none => .ok ()
  | some mode =>
      if mode = parse.mode then .ok () else .error (.templateModeMismatch name mode parse.mode)

/-- Compile a definition. -/
def compile (definition : CaseDefinition) : Except Error Case := do
  if definition.name.isEmpty then throw (.missingProperty .name)
  let output ← output? definition
  let condition ← match Condition.compile? definition.condition with
    | some condition => .ok condition
    | none => .error (.invalidPattern definition.name)
  let parsers ← buildParsers definition.parsers.entries
  let parse := instructions definition output
  checkMode definition.name output parse
  let plan ← parse.buildPlan ⟨parsers⟩ definition.name
  return {
    name := definition.name
    condition := condition
    output := output
    parsers := ⟨parsers⟩
    plan := plan
    origin := definition.origin }

/-- Whether matching messages are kept. -/
def keepsMessage (compiled : Case) : Bool :=
  match compiled.output with
  | .kept => true
  | .template _ => false

/-- The mode of the parameters. -/
def mode (compiled : Case) : CaptureMode := compiled.plan.mode

/-- A parser of the case itself. -/
def localParser? (compiled : Case) (name : String) : Option ValueParser :=
  compiled.parsers.find? name

/-- Whether two cases were written at the same place. -/
def isSame (left right : Case) : Bool := left.origin == right.origin

end Case

end ErrorCatalog
