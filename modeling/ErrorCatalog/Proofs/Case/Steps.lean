import ErrorCatalog.Case

/-!
# Instructions always compile

Compiling an instruction can be refused like building any other parser, but it
never is, at any depth and whatever names it refers to: its steps can be written
down (`Instruction.steps`), and so can the plan of a case.

- `Instruction.buildSteps_eq`: an instruction compiles to its steps;
- `ParseDefinition.buildPlan_eq`: parse instructions compile to their plan.
-/

namespace ErrorCatalog

namespace Instruction

mutual

/-- The steps of an instruction. -/
def steps (locals : Register ValueParser) (place : String) : Instruction → List Step
  | .function apply => [.parser (ValueParser.ofFunction place apply)]
  | .parser built => [.parser built]
  | .reference name =>
      match locals.find? name with
      | some found => [.parser found]
      | none => [.deferred name]
  | .chain items => chainSteps locals place 0 items

/-- The steps of the items of a chain from an index on. -/
def chainSteps (locals : Register ValueParser) (place : String) (index : Nat) :
    List Instruction → List Step
  | [] => []
  | item :: rest =>
      item.steps locals s!"{place}-sub-{index}" ++ chainSteps locals place (index + 1) rest

end

mutual

/-- An instruction is never refused. -/
theorem buildSteps_eq (locals : Register ValueParser) (place : String) :
    ∀ instruction : Instruction,
      instruction.buildSteps locals place = .ok (instruction.steps locals place)
  | .function apply => by
      rw [buildSteps, steps]
      rfl
  | .parser built => by
      rw [buildSteps, steps]
      rfl
  | .reference name => by
      rw [buildSteps, steps]
      cases locals.find? name <;> rfl
  | .chain items => by
      rw [buildSteps, steps]
      exact buildChainSteps_eq locals place 0 items

/-- No item of a chain is refused. -/
theorem buildChainSteps_eq (locals : Register ValueParser) (place : String) (index : Nat) :
    ∀ items : List Instruction,
      buildChainSteps locals place index items = .ok (chainSteps locals place index items)
  | [] => by
      rw [buildChainSteps, chainSteps]
      rfl
  | item :: rest => by
      rw [buildChainSteps, chainSteps, buildSteps_eq locals _ item,
        buildChainSteps_eq locals place (index + 1) rest]
      rfl

end

end Instruction

namespace ParseDefinition

/-- The steps of positional instructions from an index on. -/
def positionalSteps (locals : Register ValueParser) (caseName : String) (index : Nat) :
    List Instruction → List (List Step)
  | [] => []
  | instruction :: rest =>
      instruction.steps locals s!"{caseName}-parser-{index}" ::
        positionalSteps locals caseName (index + 1) rest

/-- The plan of parse instructions. -/
def plan (locals : Register ValueParser) (caseName : String) : ParseDefinition → ParsePlan
  | .positional instructions => .positional (positionalSteps locals caseName 0 instructions)
  | .named instructions =>
      .named ⟨instructions.entries.map fun entry =>
        (entry.1, entry.2.steps locals s!"{caseName}-parser-{entry.1}")⟩

/-- No positional instruction is refused. -/
theorem buildPositionalSteps_eq (locals : Register ValueParser) (caseName : String) (index : Nat)
    (instructions : List Instruction) :
    buildPositionalSteps locals caseName index instructions =
      .ok (positionalSteps locals caseName index instructions) := by
  induction instructions generalizing index with
  | nil => rfl
  | cons instruction rest ih =>
      rw [buildPositionalSteps, instruction.buildSteps_eq, ih]
      rfl

/-- No named instruction is refused. -/
theorem buildNamedSteps_eq (locals : Register ValueParser) (caseName : String)
    (entries : List (String × Instruction)) :
    buildNamedSteps locals caseName entries =
      .ok (entries.map fun entry =>
        (entry.1, entry.2.steps locals s!"{caseName}-parser-{entry.1}")) := by
  induction entries with
  | nil => rfl
  | cons entry rest ih =>
      rw [buildNamedSteps, entry.2.buildSteps_eq, ih]
      rfl

/-- Building a plan is never refused. -/
theorem buildPlan_eq (locals : Register ValueParser) (caseName : String) (parse : ParseDefinition) :
    parse.buildPlan locals caseName = .ok (parse.plan locals caseName) := by
  cases parse with
  | positional instructions =>
      rw [buildPlan, buildPositionalSteps_eq]
      rfl
  | named instructions =>
      rw [buildPlan, buildNamedSteps_eq]
      rfl

/-- Compiling instructions keeps their mode. -/
theorem mode_plan (locals : Register ValueParser) (caseName : String) (parse : ParseDefinition) :
    (parse.plan locals caseName).mode = parse.mode := by
  cases parse <;> rfl

/-- Instructions for no parameters have the mode that they are made for. -/
@[simp] theorem mode_empty (mode : CaptureMode) : (empty mode).mode = mode := by
  cases mode <;> rfl

end ParseDefinition

end ErrorCatalog
