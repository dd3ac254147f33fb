import ErrorCatalog.ValueParser

/-!
# Parse instructions

An instruction says how one parameter is parsed: by a function, by a parser, by
a parser that is referred to by name, or by a chain of instructions. It is
compiled into a list of steps, in which the parsers of the case are already
found and all other references are left for later.

- `Instruction.buildSteps` compiles an instruction;
- `Step.runAll` runs steps from left to right;
- `Instruction.interpret` follows the instruction itself.
-/

namespace ErrorCatalog

/-- How a parameter is parsed. -/
inductive Instruction where
  | function (apply : Value → Value)
  | parser (parser : ValueParser)
  /-- The parser of a name. -/
  | reference (name : String)
  /-- One instruction after the other. -/
  | chain (items : List Instruction)

/-- One step of a compiled instruction. -/
inductive Step where
  /-- Apply a parser. -/
  | parser (parser : ValueParser)
  /-- Find a parser by its name and apply it. -/
  | deferred (name : String)

namespace Instruction

mutual

/-- Compile an instruction. A function is built as a parser named after its place, like any other
source. -/
def buildSteps (locals : Register ValueParser) (place : String) :
    Instruction → Except Error (List Step)
  | .function apply => do
      let built ← ValueParser.ofSource? place (.function apply)
      return [.parser built]
  | .parser built => return [.parser built]
  | .reference name =>
      match locals.find? name with
      | some found => return [.parser found]
      | none => return [.deferred name]
  | .chain items => buildChainSteps locals place 0 items

/-- Compile the items of a chain from an index on, up to the first one that is refused. -/
def buildChainSteps (locals : Register ValueParser) (place : String) (index : Nat) :
    List Instruction → Except Error (List Step)
  | [] => return []
  | item :: rest => do
      let first ← item.buildSteps locals s!"{place}-sub-{index}"
      let later ← buildChainSteps locals place (index + 1) rest
      return first ++ later

end

mutual

/-- The value that an instruction makes of a value. A name leads to a parser of the case, or
else to what `resolve` finds; the name that leads nowhere is the error. -/
def interpret (locals : Register ValueParser) (resolve : String → Option ValueParser) :
    Instruction → Value → Except String Value
  | .function apply, value => .ok (apply value)
  | .parser built, value => .ok (built.parse value)
  | .reference name, value =>
      match (locals.find? name).or (resolve name) with
      | some found => .ok (found.parse value)
      | none => .error name
  | .chain items, value => interpretAll locals resolve items value

/-- The value that successive instructions make of a value. -/
def interpretAll (locals : Register ValueParser) (resolve : String → Option ValueParser) :
    List Instruction → Value → Except String Value
  | [], value => .ok value
  | item :: rest, value =>
      match item.interpret locals resolve value with
      | .ok next => interpretAll locals resolve rest next
      | .error name => .error name

end

end Instruction

namespace Step

/-- The value that a step makes of a value; a name that leads nowhere is the error. -/
def run (resolve : String → Option ValueParser) (value : Value) : Step → Except String Value
  | .parser built => .ok (built.parse value)
  | .deferred name =>
      match resolve name with
      | some found => .ok (found.parse value)
      | none => .error name

/-- The value that successive steps make of a value. -/
def runAll (resolve : String → Option ValueParser) : List Step → Value → Except String Value
  | [], value => .ok value
  | step :: rest, value =>
      match step.run resolve value with
      | .ok next => runAll resolve rest next
      | .error name => .error name

end Step

end ErrorCatalog
