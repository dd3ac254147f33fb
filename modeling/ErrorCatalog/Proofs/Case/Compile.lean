import ErrorCatalog.Proofs.Case.Steps
import ErrorCatalog.Proofs.Register

/-!
# What compiled cases hold

A parser can only be built from a function or from a table with entries. A case
that is compiled from such parsers holds no others, neither among its own
parsers nor in the steps of its plan, where parsers end up that no name leads to.

- `Case.compile_eq_ok_iff`: when a definition compiles, and to which case;
- `Instruction.filled_of_mem_steps`: steps bring in no empty table;
- `Case.Built.filled`: nor does any other part of a compiled case.
-/

namespace ErrorCatalog

/-! ## What can be built -/

/-- A parser that can be built: from a function, or from a table that is accepted. -/
inductive ValueParser.Built : ValueParser → Prop where
  | function (name : String) (apply : Value → Value) : Built (ofFunction name apply)
  | table {name : String} {entries : LookupTable} {parser : ValueParser}
      (accepted : ofTable? name entries = .ok parser) : Built parser

/-- A source whose parser, if it is one, could be built. -/
def ParserSource.Built : ParserSource → Prop
  | function _ => True
  | table _ => True
  | parser own => own.Built

namespace Instruction

mutual

/-- An instruction in which each parser could be built. -/
def Built : Instruction → Prop
  | .function _ => True
  | .parser own => own.Built
  | .reference _ => True
  | .chain items => AllBuilt items

/-- A chain in which each parser could be built. -/
def AllBuilt : List Instruction → Prop
  | [] => True
  | item :: rest => item.Built ∧ AllBuilt rest

end

end Instruction

/-- The instructions, without the places that they stand at. -/
def ParseDefinition.instructions : ParseDefinition → List Instruction
  | positional instructions => instructions
  | named instructions => instructions.values

/-- A definition in which each parser could be built. -/
structure CaseDefinition.Built (definition : CaseDefinition) : Prop where
  parsers : ∀ source ∈ definition.parsers.values, source.Built
  parse : ∀ parse, definition.parse = some parse →
    ∀ instruction ∈ parse.instructions, instruction.Built

/-- A case that can be built. -/
def Case.Built (compiled : Case) : Prop :=
  ∃ definition : CaseDefinition, definition.Built ∧ Case.compile definition = .ok compiled

/-! ## What is held -/

/-- A parser that is not an empty table. -/
def ValueParser.Filled (parser : ValueParser) : Prop :=
  ∀ entries, parser.kind = .table entries → entries.isEmpty = false

/-- The parser that a step applies, unless it is still to be found. -/
def Step.parser? : Step → Option ValueParser
  | parser built => some built
  | deferred _ => none

/-- The steps of all parameters. -/
def ParsePlan.steps : ParsePlan → List Step
  | positional steps => steps.flatten
  | named steps => steps.values.flatten

/-- The parsers in a compiled case: its own ones, and those in its steps. -/
def Case.held (compiled : Case) : List ValueParser :=
  compiled.parsers.values ++ compiled.plan.steps.filterMap Step.parser?

namespace ValueParser

/-- A parser that is built from a table has entries. -/
theorem filled_of_ofTable? {name : String} {entries : LookupTable} {parser : ValueParser}
    (accepted : ofTable? name entries = .ok parser) : parser.Filled := by
  rw [ofTable?] at accepted
  split at accepted
  · cases accepted
  · next filled =>
      cases accepted
      intro table same
      cases same
      exact Bool.eq_false_iff.mpr filled

/-- What can be built is not an empty table. -/
theorem Built.filled {parser : ValueParser} (built : parser.Built) : parser.Filled := by
  cases built with
  | function name apply => exact fun _ same => nomatch same
  | table accepted => exact filled_of_ofTable? accepted

/-- A source whose parsers were built makes a parser that is built. -/
theorem built_ofSource? {name : String} {source : ParserSource} {parser : ValueParser}
    (built : source.Built) (accepted : ofSource? name source = .ok parser) : parser.Built := by
  cases source with
  | function apply =>
      cases accepted
      exact .function name apply
  | table entries => exact .table accepted
  | parser own =>
      cases accepted
      exact built

end ValueParser

namespace Instruction

mutual

/-- The parsers in the steps of an instruction are its own and those of the case. -/
theorem filled_of_mem_steps {locals : Register ValueParser}
    (filled : ∀ parser ∈ locals.values, parser.Filled) (place : String) :
    ∀ instruction : Instruction, instruction.Built →
      ∀ parser ∈ (instruction.steps locals place).filterMap Step.parser?, parser.Filled
  | .function apply, _, held, member => by
      rw [List.mem_singleton.mp member]
      exact (ValueParser.Built.function place apply).filled
  | .parser own, built, held, member => by
      rw [List.mem_singleton.mp member]
      exact ValueParser.Built.filled built
  | .reference name, _, held, member => by
      rw [steps] at member
      cases found : locals.find? name with
      | none =>
          rw [found] at member
          cases member
      | some value =>
          rw [found] at member
          rw [List.mem_singleton.mp member]
          exact filled value (Register.mem_values_of_find? found)
  | .chain items, built, held, member => by
      rw [steps] at member
      exact filled_of_mem_chainSteps filled place 0 items built held member

theorem filled_of_mem_chainSteps {locals : Register ValueParser}
    (filled : ∀ parser ∈ locals.values, parser.Filled) (place : String) (index : Nat) :
    ∀ items : List Instruction, AllBuilt items →
      ∀ parser ∈ (chainSteps locals place index items).filterMap Step.parser?, parser.Filled
  | [], _, _, member => by cases member
  | item :: rest, built, held, member => by
      rw [chainSteps, List.filterMap_append, List.mem_append] at member
      rcases member with first | later
      · exact filled_of_mem_steps filled _ item built.1 held first
      · exact filled_of_mem_chainSteps filled place (index + 1) rest built.2 held later

end

end Instruction

namespace ParseDefinition

/-- No step of a positional instruction holds an empty table. -/
theorem filled_of_mem_positionalSteps {locals : Register ValueParser}
    (filled : ∀ parser ∈ locals.values, parser.Filled) (caseName : String) (index : Nat)
    (items : List Instruction) (built : ∀ instruction ∈ items, instruction.Built) :
    ∀ parser ∈ (positionalSteps locals caseName index items).flatten.filterMap Step.parser?,
      parser.Filled := by
  induction items generalizing index with
  | nil =>
      intro parser member
      cases member
  | cons item rest ih =>
      intro parser member
      rw [positionalSteps, List.flatten_cons, List.filterMap_append, List.mem_append] at member
      rcases member with first | later
      · exact Instruction.filled_of_mem_steps filled _ item (built item List.mem_cons_self) parser
          first
      · have others : ∀ instruction ∈ rest, instruction.Built :=
          fun other inside => built other (List.mem_cons_of_mem _ inside)
        exact ih (index + 1) others parser later

/-- No step of a named instruction holds an empty table. -/
theorem filled_of_mem_namedSteps {locals : Register ValueParser}
    (filled : ∀ parser ∈ locals.values, parser.Filled) (place : String → String)
    (entries : List (String × Instruction))
    (built : ∀ entry ∈ entries, entry.2.Built) :
    ∀ parser ∈ (entries.map fun entry => entry.2.steps locals (place entry.1)).flatten.filterMap
      Step.parser?, parser.Filled := by
  induction entries with
  | nil =>
      intro parser member
      cases member
  | cons entry rest ih =>
      intro parser member
      rw [List.map_cons, List.flatten_cons, List.filterMap_append, List.mem_append] at member
      rcases member with first | later
      · exact Instruction.filled_of_mem_steps filled _ entry.2 (built entry List.mem_cons_self)
          parser first
      · exact ih (fun other inside => built other (List.mem_cons_of_mem _ inside)) parser later

/-- The steps of a plan hold no empty table. -/
theorem filled_of_mem_plan {locals : Register ValueParser}
    (filled : ∀ parser ∈ locals.values, parser.Filled) (caseName : String)
    (parse : ParseDefinition) (built : ∀ instruction ∈ parse.instructions, instruction.Built) :
    ∀ parser ∈ (parse.plan locals caseName).steps.filterMap Step.parser?, parser.Filled := by
  cases parse with
  | positional items => exact filled_of_mem_positionalSteps filled caseName 0 items built
  | named items =>
      have entries : ∀ entry ∈ items.entries, entry.2.Built := fun entry member =>
        built entry.2 (List.mem_map.mpr ⟨entry, member, rfl⟩)
      rw [plan, ParsePlan.steps, Register.values, List.map_map]
      exact filled_of_mem_namedSteps filled (fun name => s!"{caseName}-parser-{name}") items.entries
        entries

end ParseDefinition

namespace Case

/-- No parser that a case builds holds an empty table. -/
theorem filled_of_buildParsers {sources : List (String × ParserSource)}
    {parsers : List (String × ValueParser)} (built : ∀ entry ∈ sources, entry.2.Built)
    (accepted : buildParsers sources = .ok parsers) : ∀ entry ∈ parsers, entry.2.Filled := by
  induction sources generalizing parsers with
  | nil =>
      cases accepted
      intro entry member
      cases member
  | cons source rest ih =>
      obtain ⟨name, source⟩ := source
      rw [buildParsers] at accepted
      cases first : ValueParser.ofSource? name source with
      | error error =>
          rw [first] at accepted
          cases accepted
      | ok parser =>
          cases others : buildParsers rest with
          | error error =>
              rw [first, others] at accepted
              cases accepted
          | ok later =>
              rw [first, others] at accepted
              cases accepted
              intro entry member
              rcases List.mem_cons.mp member with same | member
              · subst same
                exact (ValueParser.built_ofSource? (built _ List.mem_cons_self) first).filled
              · have remaining : ∀ source ∈ rest, source.2.Built :=
                  fun other inside => built other (List.mem_cons_of_mem _ inside)
                exact ih remaining others entry member

/-- A definition compiles when it has a name, an output, a condition that compiles, parsers that
can be built, and the mode that its output requires. -/
theorem compile_eq_ok_iff (definition : CaseDefinition) (compiled : Case) :
    compile definition = .ok compiled ↔
      definition.name.isEmpty = false ∧
      ∃ output condition parsers,
        output? definition = .ok output ∧
        Condition.compile? definition.condition = some condition ∧
        buildParsers definition.parsers.entries = .ok parsers ∧
        checkMode definition.name output (instructions definition output) = .ok () ∧
        compiled =
          { name := definition.name
            condition := condition
            output := output
            parsers := ⟨parsers⟩
            plan := (instructions definition output).plan ⟨parsers⟩ definition.name
            origin := definition.origin } := by
  cases named : definition.name.isEmpty with
  | true => simp [compile, named, throw, throwThe, MonadExceptOf.throw, Bind.bind, Except.bind]
  | false =>
      simp only [compile, named, Bool.false_eq_true, ↓reduceIte, Bind.bind, Except.bind, pure,
        Except.pure]
      cases output? definition with
      | error error => simp
      | ok output =>
          cases Condition.compile? definition.condition with
          | none => simp
          | some condition =>
              cases buildParsers definition.parsers.entries with
              | error error => simp
              | ok parsers =>
                  cases mode :
                      checkMode definition.name output (instructions definition output) with
                  | error error => simp [mode]
                  | ok _ => simp [mode, ParseDefinition.buildPlan_eq, eq_comm]

/-- A case has the name of its definition. -/
theorem name_of_compile {definition : CaseDefinition} {compiled : Case}
    (compiles : compile definition = .ok compiled) :
    compiled.name = definition.name := by
  obtain ⟨-, output, condition, parsers, -, -, -, -, rfl⟩ :=
    (compile_eq_ok_iff definition compiled).mp compiles
  rfl

/-- The output of a case is what its definition asks for. -/
theorem output_of_compile {definition : CaseDefinition} {compiled : Case}
    (compiles : compile definition = .ok compiled) :
    (definition.keepsMessage = true ∧ compiled.output = .kept) ∨
    (definition.keepsMessage = false ∧ ∃ template,
      definition.message = some template ∧ compiled.output = .template template) := by
  obtain ⟨-, output, condition, parsers, made, -, -, -, rfl⟩ :=
    (compile_eq_ok_iff definition compiled).mp compiles
  rw [output?] at made
  cases keeps : definition.keepsMessage with
  | true =>
      rw [keeps, if_pos rfl] at made
      cases made
      exact Or.inl ⟨rfl, rfl⟩
  | false =>
      rw [keeps, if_neg Bool.false_ne_true] at made
      cases given : definition.message with
      | none =>
          rw [given] at made
          cases made
      | some template =>
          rw [given] at made
          cases made
          exact Or.inr ⟨rfl, template, rfl, rfl⟩

/-- A case that can be built holds no empty table. -/
theorem Built.filled {compiled : Case} (built : compiled.Built) :
    ∀ parser ∈ compiled.held, parser.Filled := by
  obtain ⟨definition, built, accepted⟩ := built
  obtain ⟨-, output, condition, parsers, -, -, sources, -, rfl⟩ :=
    (compile_eq_ok_iff definition compiled).mp accepted
  have own : ∀ parser ∈ (Register.mk parsers).values, parser.Filled := by
    intro parser member
    obtain ⟨entry, inside, rfl⟩ := List.mem_map.mp member
    refine filled_of_buildParsers ?_ sources entry inside
    intro source listed
    exact built.parsers source.2 (List.mem_map.mpr ⟨source, listed, rfl⟩)
  intro parser member
  rcases List.mem_append.mp member with held | step
  · exact own parser held
  · refine ParseDefinition.filled_of_mem_plan own definition.name _ ?_ parser step
    intro instruction listed
    rw [instructions] at listed
    cases given : definition.parse with
    | some parse =>
        rw [given] at listed
        exact built.parse parse given instruction listed
    | none =>
        rw [given, Option.getD_none] at listed
        cases mode : output.mode?.getD .positional with
        | positional =>
            rw [mode] at listed
            cases listed
        | named =>
            rw [mode] at listed
            cases listed

/-- Every case has a name. -/
theorem Built.name_ne_empty {compiled : Case} (built : compiled.Built) : compiled.name ≠ "" := by
  obtain ⟨definition, -, accepted⟩ := built
  obtain ⟨named, _, _, _, -, -, -, -, rfl⟩ := (compile_eq_ok_iff definition compiled).mp accepted
  intro same
  rw [show definition.name = "" from same] at named
  cases named

end Case

end ErrorCatalog
