import ErrorCatalog.Case.Parse
import ErrorCatalog.Template.Part
import ErrorCatalog.Proofs.Case.Compile

/-!
# Compiled instructions mean what they say

An instruction is compiled in two phases: names of the case's own parsers are
replaced when the case is compiled, all others are looked up whenever a message
matches. Running the steps still makes of every value what the instruction
itself says (`Instruction.runAll_steps`), in which each name is looked up when
it is met.

- `Instruction.interpretAll_leaves`: how instructions are nested in chains does
  not matter;
- `Case.Makes`: the rules for what an instruction makes of a value, which look
  at the scopes themselves;
- `Case.follow_eq_iff`: instructions are followed by these rules;
- `Case.runSteps_of_compile`: every parameter of a compiled case is parsed as
  the instruction for it says.
-/

namespace ErrorCatalog

/-! ## References -/

namespace Scope

/-- A name leads to the parser of the first scope that has one. -/
theorem resolve?_eq_some_iff (scopes : List Scope) (name : String) (found : ValueParser) :
    resolve? scopes name = some found ↔
      ∃ earlier holder later, scopes = earlier ++ holder :: later ∧
        holder.parsers.find? name = some found ∧
        ∀ scope ∈ earlier, scope.parsers.find? name = none :=
  List.findSome?_eq_some_iff

/-- A name leads nowhere if no scope has a parser of it. -/
theorem resolve?_eq_none_iff (scopes : List Scope) (name : String) :
    resolve? scopes name = none ↔ ∀ scope ∈ scopes, scope.parsers.find? name = none :=
  List.findSome?_eq_none_iff

end Scope

/-! ## Steps and instructions -/

/-- Steps are run in two parts; the second one starts from what the first one makes. -/
theorem Step.runAll_append (resolve : String → Option ValueParser) (first second : List Step)
    (value : Value) :
    runAll resolve (first ++ second) value =
      (runAll resolve first value).bind (runAll resolve second) := by
  induction first generalizing value with
  | nil => rfl
  | cons step rest ih =>
      rw [List.cons_append, runAll, runAll]
      cases step.run resolve value with
      | ok next => exact ih next
      | error name => rfl

namespace Instruction

variable (locals : Register ValueParser) (resolve : String → Option ValueParser)

/-- Instructions are followed in two parts; the second one starts from what the first one makes.
-/
theorem interpretAll_append (first second : List Instruction) (value : Value) :
    interpretAll locals resolve (first ++ second) value =
      (interpretAll locals resolve first value).bind (interpretAll locals resolve second) := by
  induction first generalizing value with
  | nil => simp only [List.nil_append, interpretAll, Except.bind]
  | cons item rest ih =>
      rw [List.cons_append, interpretAll, interpretAll]
      cases item.interpret locals resolve value with
      | ok next => exact ih next
      | error name => rfl

theorem interpretAll_singleton (instruction : Instruction) (value : Value) :
    interpretAll locals resolve [instruction] value =
      instruction.interpret locals resolve value := by
  rw [interpretAll]
  cases instruction.interpret locals resolve value with
  | ok next => simp only [interpretAll]
  | error name => rfl

mutual

/-- The steps of an instruction do what it says, wherever it stands. -/
theorem runAll_steps (place : String) : ∀ (instruction : Instruction) (value : Value),
    Step.runAll resolve (instruction.steps locals place) value =
      instruction.interpret locals resolve value
  | .function apply, value => by
      rw [steps, interpret]
      rfl
  | .parser built, value => by
      rw [steps, interpret]
      rfl
  | .reference name, value => by
      -- A parser of the case hides those of the scopes, also while the steps are run.
      rw [steps, interpret]
      cases own : locals.find? name with
      | some found => rfl
      | none =>
          simp only [Step.runAll, Step.run, Option.none_or]
          cases resolve name <;> rfl
  | .chain items, value => by
      rw [steps, interpret]
      exact runAll_chainSteps place 0 items value

theorem runAll_chainSteps (place : String) (index : Nat) :
    ∀ (items : List Instruction) (value : Value),
      Step.runAll resolve (chainSteps locals place index items) value =
        interpretAll locals resolve items value
  | [], value => by
      rw [chainSteps, interpretAll, Step.runAll]
  | item :: rest, value => by
      rw [chainSteps, interpretAll, Step.runAll_append, runAll_steps _ item value]
      cases item.interpret locals resolve value with
      | ok next => exact runAll_chainSteps place (index + 1) rest next
      | error name => rfl

end

/-! ## Nesting -/

mutual

/-- The instructions of a tree that are no chains, from left to right. -/
def leaves : Instruction → List Instruction
  | .function apply => [.function apply]
  | .parser built => [.parser built]
  | .reference name => [.reference name]
  | .chain items => allLeaves items

/-- The leaves of all items of a chain. -/
def allLeaves : List Instruction → List Instruction
  | [] => []
  | item :: rest => item.leaves ++ allLeaves rest

end

mutual

/-- A tree does what its leaves do in turn. -/
theorem interpretAll_leaves : ∀ (instruction : Instruction) (value : Value),
    interpretAll locals resolve instruction.leaves value =
      instruction.interpret locals resolve value
  | .function apply, value => interpretAll_singleton locals resolve (.function apply) value
  | .parser built, value => interpretAll_singleton locals resolve (.parser built) value
  | .reference name, value => interpretAll_singleton locals resolve (.reference name) value
  | .chain items, value => by
      rw [leaves, interpret]
      exact interpretAll_allLeaves items value

theorem interpretAll_allLeaves : ∀ (items : List Instruction) (value : Value),
    interpretAll locals resolve (allLeaves items) value = interpretAll locals resolve items value
  | [], value => by rw [allLeaves]
  | item :: rest, value => by
      rw [allLeaves, interpretAll_append, interpretAll_leaves item value, interpretAll]
      cases item.interpret locals resolve value with
      | ok next => exact interpretAll_allLeaves rest next
      | error name => rfl

end

end Instruction

/-! ## Parameters -/

/-- The instruction for a parameter. -/
def ParseDefinition.find? : ParseDefinition → Template.ArgumentKey → Option Instruction
  | .positional instructions, .index index => instructions[index]?
  | .named instructions, .name name => instructions.find? name
  | .positional _, .name _ => none
  | .named _, .index _ => none

/-- The steps for a parameter. -/
def ParsePlan.find? : ParsePlan → Template.ArgumentKey → Option (List Step)
  | .positional steps, .index index => steps[index]?
  | .named steps, .name name => steps.find? name
  | .positional _, .name _ => none
  | .named _, .index _ => none

namespace ParseDefinition

/-- The steps at a position are those of the instruction there. -/
theorem getElem?_positionalSteps (locals : Register ValueParser) (caseName : String)
    (instructions : List Instruction) (start index : Nat) :
    (positionalSteps locals caseName start instructions)[index]? =
      instructions[index]?.map fun instruction =>
        instruction.steps locals s!"{caseName}-parser-{start + index}" := by
  induction instructions generalizing start index with
  | nil => rfl
  | cons instruction rest ih =>
      cases index with
      | zero => rfl
      | succ index =>
          rw [positionalSteps, List.getElem?_cons_succ, List.getElem?_cons_succ, ih,
            Nat.add_right_comm, Nat.add_assoc]

/-- The steps under a name are those of the instruction there. -/
theorem findEntry?_map (steps : String → Instruction → List Step) (name : String)
    (entries : List (String × Instruction)) :
    Register.findEntry? name (entries.map fun entry => (entry.1, steps entry.1 entry.2)) =
      (Register.findEntry? name entries).map (steps name) := by
  induction entries with
  | nil => rfl
  | cons entry rest ih =>
      rw [List.map_cons, Register.findEntry?, Register.findEntry?]
      split
      · next same =>
          subst same
          rfl
      · exact ih

/-- The steps for a parameter are those of the instruction for it. -/
theorem find?_plan (locals : Register ValueParser) (caseName : String) (parse : ParseDefinition)
    (key : Template.ArgumentKey) :
    ∃ place, (parse.plan locals caseName).find? key =
      (parse.find? key).map (Instruction.steps locals place) := by
  cases parse with
  | positional instructions =>
      cases key with
      | index index => exact ⟨_, getElem?_positionalSteps locals caseName instructions 0 index⟩
      | name name => exact ⟨caseName, rfl⟩
  | named instructions =>
      cases key with
      | index index => exact ⟨caseName, rfl⟩
      | name name =>
          exact ⟨s!"{caseName}-parser-{name}", findEntry?_map
            (fun name instruction => instruction.steps locals s!"{caseName}-parser-{name}") name
            instructions.entries⟩

end ParseDefinition

namespace Case

/-- The value that an instruction makes of a value in a case, if there is an instruction. -/
def follow (compiled : Case) (scopes : List Scope) (instruction : Option Instruction)
    (value : Value) : Except Error Value :=
  match instruction with
  | none => .ok value
  | some instruction =>
      match instruction.interpret compiled.parsers (Scope.resolve? scopes) value with
      | .ok result => .ok result
      | .error name => .error (.unresolvedParser name compiled.name)

section Follow

variable (compiled : Case) (scopes : List Scope)

/-- Running the steps of an instruction follows the instruction. -/
theorem runSteps_map_steps (place : String) (instruction : Option Instruction) (value : Value) :
    compiled.runSteps scopes (instruction.map (Instruction.steps compiled.parsers place)) value =
      compiled.follow scopes instruction value := by
  cases instruction with
  | none => rfl
  | some instruction =>
      rw [runSteps, Option.map_some, Option.getD_some, Instruction.runAll_steps compiled.parsers]
      rfl

/-- A tree is followed like the flat chain of its leaves. -/
theorem follow_chain_leaves (instruction : Instruction) (value : Value) :
    compiled.follow scopes (some (.chain instruction.leaves)) value =
      compiled.follow scopes (some instruction) value := by
  rw [follow, follow, Instruction.interpret, Instruction.interpretAll_leaves]

/-- A chain of one instruction is followed like this instruction. -/
theorem follow_chain_singleton (instruction : Instruction) (value : Value) :
    compiled.follow scopes (some (.chain [instruction])) value =
      compiled.follow scopes (some instruction) value := by
  rw [follow, follow, Instruction.interpret, Instruction.interpretAll_singleton]

theorem follow_chain_nil (value : Value) :
    compiled.follow scopes (some (.chain [])) value = .ok value := by
  rw [follow, Instruction.interpret, Instruction.interpretAll]

end Follow

/-! ## Rules -/

mutual

/-- What an instruction makes of a value in a case under some visible scopes. -/
inductive Makes (compiled : Case) (scopes : List Scope) :
    Instruction → Value → Except Error Value → Prop
  | function {apply : Value → Value} {value : Value} :
      Makes compiled scopes (.function apply) value (.ok (apply value))
  | parser {built : ValueParser} {value : Value} :
      Makes compiled scopes (.parser built) value (.ok (built.parse value))
  /-- A name of the case leads to its own parser. -/
  | own {name : String} {value : Value} {found : ValueParser}
      (held : compiled.parsers.find? name = some found) :
      Makes compiled scopes (.reference name) value (.ok (found.parse value))
  /-- Another name leads to the parser of the first scope that has one. -/
  | shared {name : String} {value : Value} {found : ValueParser} {earlier later : List Scope}
      {holder : Scope} (foreign : compiled.parsers.find? name = none)
      (visible : scopes = earlier ++ holder :: later)
      (absent : ∀ scope ∈ earlier, scope.parsers.find? name = none)
      (held : holder.parsers.find? name = some found) :
      Makes compiled scopes (.reference name) value (.ok (found.parse value))
  /-- A name that neither the case nor a scope has is the error. -/
  | missing {name : String} {value : Value} (foreign : compiled.parsers.find? name = none)
      (absent : ∀ scope ∈ scopes, scope.parsers.find? name = none) :
      Makes compiled scopes (.reference name) value
        (.error (.unresolvedParser name compiled.name))
  | chain {items : List Instruction} {value : Value} {result : Except Error Value}
      (made : MakesAll compiled scopes items value result) :
      Makes compiled scopes (.chain items) value result

/-- What instructions make of a value one after the other, up to the first one that fails. -/
inductive MakesAll (compiled : Case) (scopes : List Scope) :
    List Instruction → Value → Except Error Value → Prop
  | nil {value : Value} : MakesAll compiled scopes [] value (.ok value)
  | step {item : Instruction} {rest : List Instruction} {value next : Value}
      {result : Except Error Value} (first : Makes compiled scopes item value (.ok next))
      (others : MakesAll compiled scopes rest next result) :
      MakesAll compiled scopes (item :: rest) value result
  | stop {item : Instruction} {rest : List Instruction} {value : Value} {error : Error}
      (first : Makes compiled scopes item value (.error error)) :
      MakesAll compiled scopes (item :: rest) value (.error error)

end

section Rules

variable (compiled : Case) (scopes : List Scope)

/-- The outcome of an instruction with the name that leads nowhere as the error of a case. -/
def report (outcome : Except String Value) : Except Error Value :=
  outcome.mapError fun name => .unresolvedParser name compiled.name

theorem report_eq_ok_iff (outcome : Except String Value) (value : Value) :
    compiled.report outcome = .ok value ↔ outcome = .ok value := by
  cases outcome <;> simp [report, Except.mapError]

theorem report_eq_error_iff (outcome : Except String Value) (error : Error) :
    compiled.report outcome = .error error ↔
      ∃ name, outcome = .error name ∧ error = .unresolvedParser name compiled.name := by
  cases outcome <;> simp [report, Except.mapError, eq_comm]

/-- An instruction is followed as the interpreter does it, and its errors name the case. -/
theorem follow_some (instruction : Instruction) (value : Value) :
    compiled.follow scopes (some instruction) value =
      compiled.report (instruction.interpret compiled.parsers (Scope.resolve? scopes) value) := by
  rw [follow]
  cases instruction.interpret compiled.parsers (Scope.resolve? scopes) value <;> rfl

/-- A reference makes what its rules say. -/
theorem makes_reference (name : String) (value : Value) :
    compiled.Makes scopes (.reference name) value (compiled.report
      ((Instruction.reference name).interpret compiled.parsers (Scope.resolve? scopes) value)) := by
  rw [Instruction.interpret]
  cases own : compiled.parsers.find? name with
  | some found => exact .own own
  | none =>
      rw [Option.none_or]
      cases shared : Scope.resolve? scopes name with
      | none => exact .missing own ((Scope.resolve?_eq_none_iff scopes name).mp shared)
      | some found =>
          obtain ⟨earlier, holder, later, visible, held, absent⟩ :=
            (Scope.resolve?_eq_some_iff scopes name found).mp shared
          exact .shared own visible absent held

mutual

/-- What the interpreter makes of a value follows from the rules. -/
theorem makes_interpret : ∀ (instruction : Instruction) (value : Value),
    compiled.Makes scopes instruction value (compiled.report
      (instruction.interpret compiled.parsers (Scope.resolve? scopes) value))
  | .function apply, value => by
      rw [Instruction.interpret]
      exact .function
  | .parser built, value => by
      rw [Instruction.interpret]
      exact .parser
  | .reference name, value => makes_reference compiled scopes name value
  | .chain items, value => by
      rw [Instruction.interpret]
      exact .chain (makesAll_interpretAll items value)

theorem makesAll_interpretAll : ∀ (items : List Instruction) (value : Value),
    compiled.MakesAll scopes items value (compiled.report
      (Instruction.interpretAll compiled.parsers (Scope.resolve? scopes) items value))
  | [], value => by
      rw [Instruction.interpretAll]
      exact .nil
  | item :: rest, value => by
      have first := makes_interpret item value
      rw [Instruction.interpretAll]
      cases made : item.interpret compiled.parsers (Scope.resolve? scopes) value with
      | ok next =>
          rw [made] at first
          exact .step first (makesAll_interpretAll rest next)
      | error name =>
          rw [made] at first
          exact .stop first

end

mutual

/-- What the rules make of a value is what the interpreter makes of it. -/
theorem report_interpret_of_makes : ∀ (instruction : Instruction) (value : Value)
    (result : Except Error Value), compiled.Makes scopes instruction value result →
    compiled.report
      (instruction.interpret compiled.parsers (Scope.resolve? scopes) value) = result
  | .function apply, value, result, made => by
      cases made
      rw [Instruction.interpret]
      rfl
  | .parser built, value, result, made => by
      cases made
      rw [Instruction.interpret]
      rfl
  | .reference name, value, result, made => by
      rw [Instruction.interpret]
      cases made with
      | own held =>
          rw [held]
          rfl
      | shared foreign visible absent held =>
          have first : Scope.resolve? scopes name = some _ :=
            (Scope.resolve?_eq_some_iff scopes name _).mpr ⟨_, _, _, visible, held, absent⟩
          rw [foreign, first]
          rfl
      | missing foreign absent =>
          rw [foreign, (Scope.resolve?_eq_none_iff scopes name).mpr absent]
          rfl
  | .chain items, value, result, made => by
      rw [Instruction.interpret]
      cases made with
      | chain made => exact report_interpretAll_of_makesAll items value result made

theorem report_interpretAll_of_makesAll : ∀ (items : List Instruction) (value : Value)
    (result : Except Error Value), compiled.MakesAll scopes items value result →
    compiled.report
      (Instruction.interpretAll compiled.parsers (Scope.resolve? scopes) items value) = result
  | [], value, result, made => by
      cases made
      rw [Instruction.interpretAll]
      rfl
  | item :: rest, value, result, made => by
      rw [Instruction.interpretAll]
      cases made with
      | step first others =>
          have same := report_interpret_of_makes item value _ first
          rw [(report_eq_ok_iff compiled _ _).mp same]
          exact report_interpretAll_of_makesAll rest _ result others
      | stop first =>
          have same := report_interpret_of_makes item value _ first
          obtain ⟨name, failed, rfl⟩ := (report_eq_error_iff compiled _ _).mp same
          rw [failed]
          rfl

end

/-- Instructions are followed by the rules. -/
theorem follow_eq_iff (instruction : Instruction) (value : Value) (result : Except Error Value) :
    compiled.follow scopes (some instruction) value = result ↔
      compiled.Makes scopes instruction value result := by
  rw [follow_some]
  constructor
  · rintro rfl
    exact makes_interpret compiled scopes instruction value
  · exact report_interpret_of_makes compiled scopes instruction value result

end Rules

/-- A parser of a case stands under the name that its source is given with. -/
theorem findEntry?_buildParsers {sources : List (String × ParserSource)}
    {parsers : List (String × ValueParser)} (accepted : buildParsers sources = .ok parsers)
    (name : String) :
    (Register.findEntry? name sources).map (ValueParser.ofSource? name) =
      (Register.findEntry? name parsers).map .ok := by
  induction sources generalizing parsers with
  | nil =>
      cases accepted
      rfl
  | cons source rest ih =>
      obtain ⟨own, source⟩ := source
      rw [buildParsers] at accepted
      cases first : ValueParser.ofSource? own source with
      | error error =>
          rw [first] at accepted
          cases accepted
      | ok parser =>
          cases others : buildParsers rest with
          | error error =>
              rw [first, others] at accepted
              cases accepted
          | ok later =>
              rw [first, others] at accepted
              cases accepted
              rw [Register.findEntry?, Register.findEntry?]
              split
              · next same =>
                  subst same
                  exact congrArg some first
              · exact ih others

/-- Every parameter of a compiled case is parsed as the instruction for it says. -/
theorem runSteps_find?_of_compile {definition : CaseDefinition} {compiled : Case}
    (compiles : compile definition = .ok compiled) (key : Template.ArgumentKey)
    (scopes : List Scope) (value : Value) :
    compiled.runSteps scopes (compiled.plan.find? key) value =
      compiled.follow scopes ((instructions definition compiled.output).find? key) value := by
  obtain ⟨-, output, condition, parsers, -, -, sources, -, rfl⟩ :=
    (compile_eq_ok_iff definition compiled).mp compiles
  obtain ⟨place, steps⟩ := ParseDefinition.find?_plan ⟨parsers⟩ definition.name
    (instructions definition output) key
  rw [steps]
  exact runSteps_map_steps _ scopes place _ value

/-- **Compiled instructions are followed as they are written.** Let a definition compile. For
each parameter, for all visible scopes and on every value, the compiled steps make what the
instruction of the definition says, or fail as it does: functions and parsers are applied, a name
leads to the parser of the case that was given under it, else to that of the first visible scope
which has one, else the error names it and the case, and a chain goes from left to right up to
the first failure (`Makes`). So nesting does not matter, a chain of one instruction is this
instruction, and an empty chain or no instruction passes the value on. -/
theorem runSteps_of_compile (definition : CaseDefinition) (compiled : Case)
    (compiles : compile definition = .ok compiled) :
    (∀ key scopes value,
      compiled.runSteps scopes (compiled.plan.find? key) value =
        compiled.follow scopes ((instructions definition compiled.output).find? key) value) ∧
    (∀ name, (compiled.localParser? name).map Except.ok =
      (definition.parsers.find? name).map (ValueParser.ofSource? name)) ∧
    (∀ scopes instruction value,
      compiled.follow scopes (some (.chain (Instruction.leaves instruction))) value =
        compiled.follow scopes (some instruction) value) ∧
    (∀ scopes instruction value,
      compiled.follow scopes (some (.chain [instruction])) value =
        compiled.follow scopes (some instruction) value) ∧
    (∀ scopes value,
      compiled.follow scopes (some (.chain [])) value = .ok value ∧
      compiled.follow scopes none value = .ok value) ∧
    (∀ scopes instruction value result,
      compiled.follow scopes (some instruction) value = result ↔
        compiled.Makes scopes instruction value result) := by
  have followed := runSteps_find?_of_compile compiles
  obtain ⟨-, output, condition, parsers, -, -, sources, -, rfl⟩ :=
    (compile_eq_ok_iff definition compiled).mp compiles
  refine ⟨followed, ?_, ?_, ?_, ?_, follow_eq_iff _⟩
  · intro name
    exact (findEntry?_buildParsers sources name).symm
  · intro scopes instruction value
    exact follow_chain_leaves _ scopes instruction value
  · intro scopes instruction value
    exact follow_chain_singleton _ scopes instruction value
  · intro scopes value
    exact ⟨follow_chain_nil _ scopes value, rfl⟩

/-- A case with a parser of its own, built under another name, and a nested instruction which
refers to it and then to one that it does not have. -/
def nested : CaseDefinition where
  name := "nested"
  condition := .pattern ⟨"x", [], .literal ['x'], List.nodup_nil⟩
  message := some (.fixed "m")
  parsers := ⟨[("own", .parser (ValueParser.ofFunction "other" fun value => .array [value]))]⟩
  parse := some (.positional
    [.chain [.reference "own", .chain [.chain [], .reference "later"], .reference "own"]])

/-- A scope with parsers of both names. -/
def shelf : Scope where
  name := "shelf"
  parsers := ⟨[("own", ValueParser.ofFunction "own" fun _ => .null),
    ("later", ValueParser.ofFunction "later" fun value => .object [("k", value)])]⟩

/-- A scope with another parser of the second name. -/
def drawer : Scope where
  name := "drawer"
  parsers := ⟨[("later", ValueParser.ofFunction "later" fun value => .array [.null, value])]⟩

/-- The own parser hides that of the scope. Of two scopes with a parser the first one is asked, in
whatever order they come; without any scope the name is not found. -/
theorem runSteps_of_compile_nested :
    ∃ compiled, compile nested = .ok compiled ∧
      compiled.runSteps [shelf] (compiled.plan.find? (.index 0)) (.string "v") =
        .ok (.array [.object [("k", .array [.string "v"])]]) ∧
      compiled.runSteps [Scope.new "bare", shelf, drawer] (compiled.plan.find? (.index 0))
        (.string "v") = .ok (.array [.object [("k", .array [.string "v"])]]) ∧
      compiled.runSteps [drawer, shelf] (compiled.plan.find? (.index 0)) (.string "v") =
        .ok (.array [.array [.null, .array [.string "v"]]]) ∧
      compiled.Makes [drawer, shelf] (.reference "later") (.string "v")
        (.ok (.array [.null, .string "v"])) ∧
      compiled.runSteps [] (compiled.plan.find? (.index 0)) (.string "v") =
        .error (.unresolvedParser "later" "nested") := by
  obtain ⟨followed, -, -, -, -, rules⟩ := runSteps_of_compile nested _ rfl
  exact ⟨_, rfl, followed (.index 0) [shelf] (.string "v"),
    followed (.index 0) [Scope.new "bare", shelf, drawer] (.string "v"),
    followed (.index 0) [drawer, shelf] (.string "v"),
    (rules [drawer, shelf] (.reference "later") (.string "v") _).mp rfl,
    followed (.index 0) [] (.string "v")⟩

end Case

end ErrorCatalog
