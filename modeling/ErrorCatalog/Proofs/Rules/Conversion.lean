import Mathlib.Data.List.Forall2
import ErrorCatalog.Rules

/-!
# What rules stand for

A rule of a rule file stands for a definition, or for the error of its
conversion. Relations say which, following the form of the rule only.

- `RuleParse.definition_eq_iff`: in parse instructions a name stands for itself,
  and a chain for a chain of the same shape;
- `RuleCase.definition?_eq_iff`: a case lacks a name, or else a condition, or
  else its pattern does not compile, or else it stands for a definition;
- `RulePassthrough.passthrough?_eq_iff`: the same of an entry for messages that
  are kept.
-/

namespace ErrorCatalog

/-! ## Parse instructions -/

/-- The instruction that a rule stands for. Nothing of the shape of a chain is lost. -/
inductive RuleInstruction.Denotes : RuleInstruction → Instruction → Prop where
  | reference (name : String) : Denotes (.reference name) (.reference name)
  | chain {items : List RuleInstruction} {instructions : List Instruction}
      (each : List.Forall₂ Denotes items instructions) :
      Denotes (.chain items) (.chain instructions)

/-- A named rule and the instruction that it stands for under the same name. -/
def RuleInstruction.DenotesNamed (rule : String × RuleInstruction)
    (entry : String × Instruction) : Prop :=
  rule.1 = entry.1 ∧ rule.2.Denotes entry.2

/-- The parse instructions that rules stand for, in the same order. -/
inductive RuleParse.Denotes : RuleParse → ParseDefinition → Prop where
  | positional {items : List RuleInstruction} {instructions : List Instruction}
      (each : List.Forall₂ RuleInstruction.Denotes items instructions) :
      Denotes (.positional items) (.positional instructions)
  | named {items : Register RuleInstruction} {instructions : Register Instruction}
      (each : List.Forall₂ RuleInstruction.DenotesNamed items.entries instructions.entries) :
      Denotes (.named items) (.named instructions)

namespace RuleInstruction

mutual

/-- A rule denotes the instruction that is made of it. -/
theorem denotes_instruction : ∀ rule : RuleInstruction, rule.Denotes rule.instruction
  | .reference name => .reference name
  | .chain items => .chain (denotes_instructions items)

theorem denotes_instructions : ∀ items : List RuleInstruction,
    List.Forall₂ Denotes items (instructions items)
  | [] => .nil
  | item :: rest => .cons (denotes_instruction item) (denotes_instructions rest)

end

mutual

/-- A rule denotes nothing else. -/
theorem Denotes.instruction_eq : ∀ {rule : RuleInstruction} {instruction : Instruction},
    rule.Denotes instruction → rule.instruction = instruction
  | .reference _, _, .reference _ => rfl
  | .chain _, _, .chain each => congrArg Instruction.chain (instructions_eq each)

theorem instructions_eq : ∀ {items : List RuleInstruction} {results : List Instruction},
    List.Forall₂ Denotes items results → instructions items = results
  | [], _, .nil => rfl
  | _ :: _, _, .cons first rest => congrArg₂ List.cons first.instruction_eq (instructions_eq rest)

end

/-- Named rules denote the instructions that are made of them, under their names. -/
theorem denotes_map_entries (entries : List (String × RuleInstruction)) :
    List.Forall₂ DenotesNamed entries
      (entries.map fun entry => (entry.1, entry.2.instruction)) := by
  induction entries with
  | nil => exact .nil
  | cons entry rest ih => exact .cons ⟨rfl, denotes_instruction entry.2⟩ ih

/-- Named rules denote nothing else. -/
theorem map_entries_eq {entries : List (String × RuleInstruction)}
    {results : List (String × Instruction)} (each : List.Forall₂ DenotesNamed entries results) :
    entries.map (fun entry => (entry.1, entry.2.instruction)) = results := by
  induction each with
  | nil => rfl
  | cons first rest ih => exact congrArg₂ List.cons (Prod.ext first.1 first.2.instruction_eq) ih

end RuleInstruction

/-- The parse instructions of rules are the ones that they stand for. -/
theorem RuleParse.definition_eq_iff (rule : RuleParse) (result : ParseDefinition) :
    rule.definition = result ↔ rule.Denotes result := by
  constructor
  · rintro rfl
    cases rule with
    | positional items => exact .positional (RuleInstruction.denotes_instructions items)
    | named items => exact .named (RuleInstruction.denotes_map_entries items.entries)
  · intro denotes
    cases denotes with
    | positional each =>
        exact congrArg ParseDefinition.positional (RuleInstruction.instructions_eq each)
    | named each =>
        exact congrArg (fun entries => ParseDefinition.named ⟨entries⟩)
          (RuleInstruction.map_entries_eq each)

example : (RuleParse.positional [.chain [.reference "a", .chain []]]).definition =
    .positional [.chain [.reference "a", .chain []]] := rfl

/-- Parse rules that may be absent denote what is made of them. -/
theorem RuleParse.map_definition_eq_iff (rule : Option RuleParse)
    (result : Option ParseDefinition) :
    rule.map RuleParse.definition = result ↔ Option.Rel RuleParse.Denotes rule result := by
  constructor
  · rintro rfl
    cases rule with
    | none => exact .none
    | some rule => exact .some ((rule.definition_eq_iff _).mp rfl)
  · intro related
    cases related with
    | none => rfl
    | some denotes => exact congrArg some ((RuleParse.definition_eq_iff _ _).mpr denotes)

/-! ## Conditions -/

/-- What a condition stands for. A text stands for itself; a pattern must compile, and the error
names the case. -/
inductive RuleCondition.Reads (caseName : String) :
    RuleCondition → Except Error ConditionSpec → Prop where
  | literal (text : String) : Reads caseName (.literal text) (.ok (.literal text))
  | pattern {text : String} {compiled : Pattern}
      (accepted : Pattern.compile? text = some compiled) :
      Reads caseName (.pattern text) (.ok (.pattern compiled))
  | malformed {text : String} (refused : Pattern.compile? text = none) :
      Reads caseName (.pattern text) (.error (.invalidPattern caseName))

/-- What is made of a condition is what it reads as in its case. -/
theorem RuleCondition.spec?_eq_iff (caseName : String) (rule : RuleCondition)
    (result : Except Error ConditionSpec) :
    rule.spec? caseName = result ↔ rule.Reads caseName result := by
  constructor
  · rintro rfl
    cases rule with
    | literal text => exact .literal text
    | pattern text =>
        rw [spec?]
        cases compiled : Pattern.compile? text with
        | none => exact .malformed compiled
        | some pattern => exact .pattern compiled
  · intro reads
    cases reads with
    | literal text => rfl
    | pattern accepted => rw [spec?, accepted]
    | malformed refused => rw [spec?, refused]

/-! ## Cases -/

/-- What a case of a rule file stands for: the first thing that it lacks is its error, and with
nothing amiss it is a definition with everything that the rule says. -/
inductive RuleCase.Reads (rule : RuleCase) (origin : Origin) :
    Except Error CaseDefinition → Prop where
  | nameless (absent : rule.name = none ∨ rule.name = some "") :
      Reads rule origin (.error (.missingProperty .name))
  | conditionless {name : String} (named : rule.name = some name) (nonempty : name ≠ "")
      (absent : rule.condition = none) :
      Reads rule origin (.error (.missingProperty .condition))
  | malformed {name : String} {condition : RuleCondition} {error : Error}
      (named : rule.name = some name) (nonempty : name ≠ "")
      (given : rule.condition = some condition) (refused : condition.Reads name (.error error)) :
      Reads rule origin (.error error)
  | complete {name : String} {condition : RuleCondition} {spec : ConditionSpec}
      {parse : Option ParseDefinition} (named : rule.name = some name) (nonempty : name ≠ "")
      (given : rule.condition = some condition) (accepted : condition.Reads name (.ok spec))
      (parsed : Option.Rel RuleParse.Denotes rule.parse parse) :
      Reads rule origin (.ok {
        name := name
        condition := spec
        message := rule.message.map Template.fixed
        keepsMessage := rule.keepsMessage
        parsers := rule.parsers.map ParserSource.table
        parse := parse
        scope := rule.scope
        origin := origin })

namespace RuleCase

variable {rule : RuleCase} {origin : Origin} {name : String}

/-- A rule without a name is refused for it. -/
theorem definition?_of_nameless (absent : rule.name = none ∨ rule.name = some "") :
    rule.definition? origin = .error (.missingProperty .name) := by
  have empty : rule.name.getD "" = "" := by
    rcases absent with absent | absent <;> rw [absent] <;> rfl
  rw [definition?, empty]
  rfl

/-- A rule with a name and without a condition is refused for the condition. -/
theorem definition?_of_conditionless (named : rule.name = some name) (nonempty : name ≠ "")
    (absent : rule.condition = none) :
    rule.definition? origin = .error (.missingProperty .condition) := by
  simp only [definition?, named, Option.getD_some, String.isEmpty_eq_false_iff.mpr nonempty, absent]
  rfl

/-- Any other rule is refused for its condition only; else the definition is read off it. -/
theorem definition?_of_condition {condition : RuleCondition} (named : rule.name = some name)
    (nonempty : name ≠ "") (given : rule.condition = some condition) :
    rule.definition? origin = (condition.spec? name).map fun spec => {
      name := name
      condition := spec
      message := rule.message.map Template.fixed
      keepsMessage := rule.keepsMessage
      parsers := rule.parsers.map ParserSource.table
      parse := rule.parse.map RuleParse.definition
      scope := rule.scope
      origin := origin } := by
  simp only [definition?, named, Option.getD_some, String.isEmpty_eq_false_iff.mpr nonempty, given]
  cases condition.spec? name <;> rfl

/-- The conversion of a case is what it stands for. -/
theorem definition?_eq_iff (rule : RuleCase) (origin : Origin)
    (result : Except Error CaseDefinition) :
    rule.definition? origin = result ↔ rule.Reads origin result := by
  constructor
  · rintro rfl
    by_cases absent : rule.name = none ∨ rule.name = some ""
    · rw [definition?_of_nameless absent]
      exact .nameless absent
    · rw [not_or] at absent
      obtain ⟨name, named⟩ := Option.ne_none_iff_exists'.mp absent.1
      have nonempty : name ≠ "" := by
        rintro rfl
        exact absent.2 named
      cases given : rule.condition with
      | none =>
          rw [definition?_of_conditionless named nonempty given]
          exact .conditionless named nonempty given
      | some condition =>
          have reads := (condition.spec?_eq_iff name _).mp rfl
          rw [definition?_of_condition named nonempty given]
          cases read : condition.spec? name with
          | error error => exact .malformed named nonempty given (read ▸ reads)
          | ok spec =>
              exact .complete named nonempty given (read ▸ reads)
                ((RuleParse.map_definition_eq_iff _ _).mp rfl)
  · intro reads
    cases reads with
    | nameless absent => exact definition?_of_nameless absent
    | conditionless named nonempty absent =>
        exact definition?_of_conditionless named nonempty absent
    | malformed named nonempty given refused =>
        rw [definition?_of_condition named nonempty given,
          (RuleCondition.spec?_eq_iff _ _ _).mpr refused]
        rfl
    | complete named nonempty given accepted parsed =>
        rw [definition?_of_condition named nonempty given,
          (RuleCondition.spec?_eq_iff _ _ _).mpr accepted,
          (RuleParse.map_definition_eq_iff _ _).mpr parsed]
        rfl

/-- A name is missed before a condition that does not compile. -/
example : ({ condition := some (.pattern "(") } : RuleCase).definition? default =
    .error (.missingProperty .name) := rfl

end RuleCase

/-! ## Entries for messages that are kept -/

/-- The condition of an entry. -/
def RulePassthrough.condition : RulePassthrough → RuleCondition
  | bare condition => condition
  | definition _ condition _ => condition

/-- The name of an entry, if it has one. -/
def RulePassthrough.name? : RulePassthrough → Option String
  | bare _ => none
  | definition name _ _ => name

/-- The scope that an entry names, if any. -/
def RulePassthrough.scope? : RulePassthrough → Option String
  | bare _ => none
  | definition _ _ scope => scope

/-- What an entry stands for. Only its pattern can be amiss, and the error then names the entry,
or all entries without a name alike. -/
inductive RulePassthrough.Reads (rule : RulePassthrough) (origin : Origin) :
    Except Error Passthrough → Prop where
  | malformed {error : Error}
      (refused : rule.condition.Reads (rule.name?.getD "allow_original") (.error error)) :
      Reads rule origin (.error error)
  | complete {spec : ConditionSpec}
      (accepted : rule.condition.Reads (rule.name?.getD "allow_original") (.ok spec)) :
      Reads rule origin (.ok {
        name := rule.name?
        condition := spec
        scope := rule.scope?
        origin := origin })

/-- A rule for messages that are kept is read off it, unless its condition is refused. -/
theorem RulePassthrough.passthrough?_eq (rule : RulePassthrough) (origin : Origin) :
    rule.passthrough? origin =
      (rule.condition.spec? (rule.name?.getD defaultLabel)).map fun spec =>
        { name := rule.name?, condition := spec, scope := rule.scope?, origin := origin } := by
  cases rule with
  | bare condition =>
      rw [passthrough?, RulePassthrough.condition, name?, Option.getD_none]
      cases condition.spec? defaultLabel <;> rfl
  | definition name condition scope =>
      rw [passthrough?, RulePassthrough.condition, name?]
      cases condition.spec? (name.getD defaultLabel) <;> rfl

/-- The conversion of an entry is what it stands for. -/
theorem RulePassthrough.passthrough?_eq_iff (rule : RulePassthrough) (origin : Origin)
    (result : Except Error Passthrough) :
    rule.passthrough? origin = result ↔ rule.Reads origin result := by
  rw [passthrough?_eq]
  constructor
  · rintro rfl
    have reads := (rule.condition.spec?_eq_iff (rule.name?.getD defaultLabel) _).mp rfl
    cases read : rule.condition.spec? (rule.name?.getD defaultLabel) with
    | error error =>
        rw [read] at reads
        exact .malformed reads
    | ok spec =>
        rw [read] at reads
        exact .complete reads
  · intro reads
    cases reads with
    | malformed refused =>
        rw [defaultLabel, (RuleCondition.spec?_eq_iff _ _ _).mpr refused]
        rfl
    | complete accepted =>
        rw [defaultLabel, (RuleCondition.spec?_eq_iff _ _ _).mpr accepted]
        rfl

end ErrorCatalog
