import ErrorCatalog.Catalog.Registration

/-!
# Rule files

A rule file holds settings, and for the global scope and for others the lookup
tables, cases and conditions to register. Nothing in it is checked until it is
loaded, so that what is wrong with a rule is reported like any other wrong
definition.

- `RuleCase.definition?` and `RulePassthrough.passthrough?` turn rules into
  definitions;
- `Catalog.loadRules` registers a rule file up to the first failure;
- `Catalog.ofRules` starts a catalog with the settings of a rule file.
-/

namespace ErrorCatalog

/-- A condition in a rule file, whose pattern is not compiled yet. -/
inductive RuleCondition where
  | literal (text : String)
  | pattern (text : String)
  deriving Repr, DecidableEq

/-- A parse instruction in a rule file: the name of a parser, or a chain. -/
inductive RuleInstruction where
  | reference (name : String)
  | chain (items : List RuleInstruction)

/-- Parse instructions in a rule file. -/
inductive RuleParse where
  | positional (instructions : List RuleInstruction)
  | named (instructions : Register RuleInstruction)

/-- A case in a rule file. -/
structure RuleCase where
  name : Option String := none
  condition : Option RuleCondition := none
  message : Option String := none
  /-- Whether messages are kept as they are. -/
  keepsMessage : Bool := false
  parsers : Register LookupTable := Register.empty
  parse : Option RuleParse := none
  /-- The scope that the case belongs to, if it names one. -/
  scope : Option String := none

/-- An entry for messages that are kept: a bare condition, or one with a name or a scope. -/
inductive RulePassthrough where
  | bare (condition : RuleCondition)
  | definition (name : Option String) (condition : RuleCondition) (scope : Option String)

/-- What a rule file holds for one scope. -/
structure RuleSection where
  parsers : Register LookupTable := Register.empty
  cases : List RuleCase := []
  /-- The conditions for messages that are kept. -/
  passthroughs : List RulePassthrough := []

/-- A rule file. -/
structure RuleSet where
  settings : Settings := {}
  global : RuleSection := {}
  scopes : Register RuleSection := Register.empty

/-- The condition of a rule. Its pattern must compile; the error names the case. -/
def RuleCondition.spec? (caseName : String) : RuleCondition → Except Error ConditionSpec
  | .literal text => .ok (.literal text)
  | .pattern text =>
      match Pattern.compile? text with
      | some compiled => .ok (.pattern compiled)
      | none => .error (.invalidPattern caseName)

namespace RuleInstruction

mutual

/-- The instruction that a rule stands for. -/
def instruction : RuleInstruction → Instruction
  | .reference name => .reference name
  | .chain items => .chain (instructions items)

/-- The instructions that the items of a chain stand for. -/
def instructions : List RuleInstruction → List Instruction
  | [] => []
  | item :: rest => item.instruction :: instructions rest

end

end RuleInstruction

/-- The parse instructions that a rule stands for. -/
def RuleParse.definition : RuleParse → ParseDefinition
  | .positional items => .positional (RuleInstruction.instructions items)
  | .named items => .named (items.map RuleInstruction.instruction)

/-- The definition of a case, written at a given place. It needs a name, then a condition, then a
pattern that compiles. -/
def RuleCase.definition? (rule : RuleCase) (origin : Origin) : Except Error CaseDefinition := do
  let name := rule.name.getD ""
  if name.isEmpty then throw (.missingProperty .name)
  match rule.condition with
  | none => throw (.missingProperty .condition)
  | some condition =>
      return {
        name := name
        condition := ← condition.spec? name
        message := rule.message.map Template.fixed
        keepsMessage := rule.keepsMessage
        parsers := rule.parsers.map ParserSource.table
        parse := rule.parse.map RuleParse.definition
        scope := rule.scope
        origin := origin }

/-- The name in errors of a case that is to get a name of its own. -/
def RulePassthrough.defaultLabel : String := "allow_original"

/-- The definition of a case that keeps messages, written at a given place. -/
def RulePassthrough.passthrough? (rule : RulePassthrough) (origin : Origin) :
    Except Error Passthrough :=
  match rule with
  | .bare condition => do
      return { condition := ← condition.spec? defaultLabel, origin }
  | .definition name condition scope => do
      return { name, condition := ← condition.spec? (name.getD defaultLabel), scope, origin }

namespace Catalog

/-- Go on with another change unless the first one fails. -/
def Change.andThen (first : Change Unit) (next : Catalog → Change Unit) : Change Unit :=
  match first with
  | (.ok _, catalog) => next catalog
  | (.error error, catalog) => (.error error, catalog)

/-- Register a lookup table of a rule file. -/
def loadTable (scope : String) (catalog : Catalog) (entry : String × LookupTable) : Change Unit :=
  catalog.addParser entry.1 (.table entry.2) (some scope)

/-- Register a case of a rule file, which is numbered within its section. -/
def loadCase (scope : String) (document : Nat) (place : List Nat) (catalog : Catalog)
    (entry : RuleCase × Nat) : Change Unit :=
  match entry.1.definition? ⟨document, place ++ [0, entry.2]⟩ with
  | .ok definition => catalog.addCase definition (some scope)
  | .error error => (.error error, catalog)

/-- Register a condition of a rule file for messages that are kept. -/
def loadPassthrough (scope : String) (document : Nat) (place : List Nat) (catalog : Catalog)
    (entry : RulePassthrough × Nat) : Change Unit :=
  match entry.1.passthrough? ⟨document, place ++ [1, entry.2]⟩ with
  | .ok passthrough => catalog.addPassthrough passthrough (some scope)
  | .error error => (.error error, catalog)

/-- Register the rules of one scope: parsers, then cases, then conditions for messages that are
kept. -/
def loadSection (document : Nat) (place : List Nat) (scope : String) (catalog : Catalog)
    (rules : RuleSection) : Change Unit :=
  ((catalog.changeAll (loadTable scope) rules.parsers.entries).andThen fun catalog =>
    catalog.changeAll (loadCase scope document place) rules.cases.zipIdx).andThen fun catalog =>
      catalog.changeAll (loadPassthrough scope document place) rules.passthroughs.zipIdx

/-- Register the rules of a scope that is not the global one; the scope is created even if there
are none. -/
def loadScope (document : Nat) (catalog : Catalog) (entry : (String × RuleSection) × Nat) :
    Change Unit :=
  loadSection document [entry.2 + 1] entry.1.1 (catalog.scopeOrCreate entry.1.1).2 entry.1.2

/-- Register a rule file, which is numbered among the documents of the catalog, up to the first
failure. The catalog keeps its own settings. -/
def loadRules (catalog : Catalog) (document : Nat) (rules : RuleSet) : Change Unit :=
  (loadSection document [0] globalName catalog rules.global).andThen fun catalog =>
    catalog.changeAll (loadScope document) rules.scopes.entries.zipIdx

/-- A new catalog with the settings and the rules of a rule file. -/
def ofRules (rules : RuleSet) (proposals : NameSource) : Except Error Catalog :=
  match (Catalog.new rules.settings proposals).loadRules 0 rules with
  | (.ok _, catalog) => .ok catalog
  | (.error error, _) => .error error

end Catalog

end ErrorCatalog
