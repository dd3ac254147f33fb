import ErrorCatalog.Proofs.Case.Compile
import ErrorCatalog.Proofs.Catalog.Operation

/-!
# Operations on what can be built

The arguments of an operation come from somewhere: a prebuilt scope is the
result of operations on scopes, a compiled case that of compiling. An operation
is built when its arguments are, and then so are those of its single calls.

- `Catalog.Operation.Built.call`: the calls of a built operation are built;
- `Registration.Built.item`: what a built registration registers can be built.
-/

namespace ErrorCatalog

/-- An item that can be built. -/
def Item.Built : Item → Prop
  | ofCase compiled => compiled.Built
  | ofParser parser => parser.Built

/-- A scope that can be built: from an empty one, by adding and removing items. -/
inductive Scope.Built : Scope → Prop where
  | new (name : String) : Built (Scope.new name)
  | add {scope next : Scope} {item : Item} (earlier : scope.Built) (own : item.Built)
      (accepted : scope.add item = .ok next) : Built next
  | remove {scope next : Scope} {label : Label} {item : Item} (earlier : scope.Built)
      (accepted : scope.remove label = .ok (item, next)) : Built next

/-- A registration of something that can be built. Passthroughs always can. -/
def Registration.Built : Registration → Prop
  | ofParser _ source _ => source.Built
  | ofCase definition _ => definition.Built
  | ofPassthrough _ _ => True

/-- A call with arguments that can be built. -/
def Call.Built : Call → Prop
  | register registration => registration.Built
  | insertScope scope _ => scope.Built
  | removeScope _ => True
  | openScope _ => True
  | addTo _ item => item.Built
  | removeFrom _ _ => True

/-- An operation with arguments that can be built. Rule files hold only such arguments. -/
def Catalog.Operation.Built : Catalog.Operation → Prop
  | single call => call.Built
  | addCases definitions _ => ∀ definition ∈ definitions, definition.Built
  | addPassthroughs _ _ => True
  | addScope _ definitions _ => ∀ definition ∈ definitions, definition.Built
  | loadRules _ _ => True

/-! ## Rule files -/

namespace RuleInstruction

mutual

/-- The instructions of rule files hold no parsers. -/
theorem built_instruction : ∀ rule : RuleInstruction, rule.instruction.Built
  | .reference _ => trivial
  | .chain items => built_instructions items

theorem built_instructions : ∀ rules : List RuleInstruction,
    Instruction.AllBuilt (instructions rules)
  | [] => trivial
  | rule :: rest => ⟨built_instruction rule, built_instructions rest⟩

end

/-- Each item of a list of rules makes a built instruction. -/
theorem built_of_mem_instructions (rules : List RuleInstruction) :
    ∀ instruction ∈ instructions rules, instruction.Built := by
  induction rules with
  | nil =>
      intro instruction member
      cases member
  | cons rule rest ih =>
      intro instruction member
      rcases List.mem_cons.mp member with same | later
      · exact same ▸ built_instruction rule
      · exact ih instruction later

end RuleInstruction

/-- Parse rules make built instructions. -/
theorem RuleParse.built_definition (rule : RuleParse) :
    ∀ instruction ∈ rule.definition.instructions, instruction.Built := by
  cases rule with
  | positional items => exact RuleInstruction.built_of_mem_instructions items
  | named items =>
      intro instruction member
      obtain ⟨entry, listed, rfl⟩ := List.mem_map.mp member
      obtain ⟨rule, _, rfl⟩ := List.mem_map.mp listed
      exact RuleInstruction.built_instruction rule.2

/-- The definition that a rule makes is built. -/
theorem RuleCase.built_definition? {rule : RuleCase} {origin : Origin}
    {definition : CaseDefinition} (read : rule.definition? origin = .ok definition) :
    definition.Built := by
  rw [RuleCase.definition?] at read
  cases named : (rule.name.getD "").isEmpty with
  | true => simp [named, throw, throwThe, MonadExceptOf.throw, Bind.bind, Except.bind] at read
  | false =>
      cases given : rule.condition with
      | none =>
          simp [named, given, throw, throwThe, MonadExceptOf.throw] at read
      | some condition =>
          cases compiles : condition.spec? (rule.name.getD "") with
          | error error => simp [named, given, compiles, Bind.bind, Except.bind] at read
          | ok spec =>
              simp only [named, given, compiles, Bind.bind, Except.bind, pure, Except.pure,
                Bool.false_eq_true, ↓reduceIte, Except.ok.injEq] at read
              subst read
              constructor
              · intro source member
                obtain ⟨entry, listed, rfl⟩ := List.mem_map.mp member
                obtain ⟨table, _, rfl⟩ := List.mem_map.mp listed
                exact trivial
              · intro parse given
                obtain ⟨own, _, rfl⟩ := Option.map_eq_some_iff.mp given
                exact own.built_definition

/-! ## Calls and items -/

/-- The calls that a section of rules makes hand over built things only. -/
theorem RuleSection.built_of_mem_calls {document : Nat} {place : List Nat} {scope : String}
    {rules : RuleSection} {call : Call} (member : .ok call ∈ rules.calls document place scope) :
    call.Built := by
  rw [RuleSection.calls, List.mem_append, List.mem_append] at member
  rcases member with (table | definition) | passthrough
  · obtain ⟨entry, -, same⟩ := List.mem_map.mp table
    cases same
    exact trivial
  · obtain ⟨entry, -, same⟩ := List.mem_map.mp definition
    obtain ⟨definition, read, rfl⟩ := exists_of_map_eq_ok same
    exact RuleCase.built_definition? read
  · obtain ⟨entry, -, same⟩ := List.mem_map.mp passthrough
    obtain ⟨passthrough, -, rfl⟩ := exists_of_map_eq_ok same
    exact trivial

/-- A built operation makes built calls. -/
theorem Catalog.Operation.Built.call {operation : Catalog.Operation} (built : operation.Built)
    {call : Call} (member : .ok call ∈ operation.calls) : call.Built := by
  cases operation with
  | single own =>
      cases List.mem_singleton.mp member
      exact built
  | addCases definitions scope =>
      obtain ⟨definition, listed, same⟩ := List.mem_map.mp member
      cases same
      exact built definition listed
  | addPassthroughs passthroughs scope =>
      obtain ⟨passthrough, listed, same⟩ := List.mem_map.mp member
      cases same
      exact trivial
  | addScope name definitions overwrite =>
      rcases List.mem_cons.mp member with first | later
      · cases first
        exact Scope.Built.new name
      · obtain ⟨definition, listed, same⟩ := List.mem_map.mp later
        cases same
        exact built definition listed
  | loadRules document rules =>
      rcases List.mem_append.mp member with first | later
      · exact RuleSection.built_of_mem_calls first
      · obtain ⟨entry, -, listed⟩ := List.mem_flatMap.mp later
        rcases List.mem_cons.mp listed with opening | inside
        · cases opening
          exact trivial
        · exact RuleSection.built_of_mem_calls inside

/-- A message that is kept makes a built definition. -/
theorem Catalog.built_passthroughDefinition (catalog : Catalog) (passthrough : Passthrough)
    (scope : Option String) : (catalog.passthroughDefinition passthrough scope).Built := by
  constructor
  · intro source member
    cases member
  · intro parse given
    cases given

/-- A built registration makes a built item. -/
theorem Registration.Built.item {registration : Registration} (built : registration.Built)
    {catalog : Catalog} {item : Item} (accepted : registration.build catalog = .ok item) :
    item.Built := by
  cases registration with
  | ofParser name source scope =>
      obtain ⟨parser, result, rfl⟩ := exists_of_map_eq_ok accepted
      exact ValueParser.built_ofSource? built result
  | ofCase definition scope =>
      obtain ⟨compiled, result, rfl⟩ := exists_of_map_eq_ok accepted
      exact ⟨definition, built, result⟩
  | ofPassthrough passthrough scope =>
      obtain ⟨compiled, result, rfl⟩ := exists_of_map_eq_ok accepted
      exact ⟨_, catalog.built_passthroughDefinition passthrough scope, result⟩

end ErrorCatalog
