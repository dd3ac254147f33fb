import ErrorCatalog.Proofs.Catalog.Refusal
import ErrorCatalog.Proofs.Rules.Conversion

/-!
# Loading rule files

A rule file is loaded by the same single calls that register its items by hand,
in the order of the file and up to the first failure.

- `Catalog.performAll_eq_error_iff`: where a sequence of calls stops, and what it
  leaves;
- `Catalog.addCase_own` and `Catalog.addPassthrough_own`: the own scope of an
  item wins over the one around it;
- `Catalog.isRuleError_of_stopsAt`: the errors that loading can end with;
- `Catalog.loadRules_eq_calls`: loading is the sequence of its calls.
-/

namespace ErrorCatalog

/-! ## Errors of definitions in rule files -/

/-- The errors that a rule file can be refused with. -/
inductive Error.IsRuleError : Error → Prop where
  | missingProperty (property : RequiredProperty) : IsRuleError (.missingProperty property)
  | invalidPattern (caseName : String) : IsRuleError (.invalidPattern caseName)
  | emptyLookupTable (parser : String) : IsRuleError (.emptyLookupTable parser)
  | duplicateCase (caseName scope : String) : IsRuleError (.duplicateCase caseName scope)
  | duplicateParser (parser scope : String) : IsRuleError (.duplicateParser parser scope)

/-- Errors of rules are errors of definitions. -/
theorem Error.IsRuleError.kind_eq {error : Error} (belongs : error.IsRuleError) :
    error.kind = .definition := by
  cases belongs <;> rfl

/-- A condition that is refused is an error of its rule. -/
theorem RuleCondition.Reads.isRuleError {caseName : String} {rule : RuleCondition} {error : Error}
    (refused : rule.Reads caseName (.error error)) : error.IsRuleError := by
  cases refused
  exact .invalidPattern caseName

/-- A source that makes no parser is an error of its rule. -/
theorem ValueParser.isRuleError_of_ofSource? {name : String} {source : ParserSource} {error : Error}
    (failed : ofSource? name source = .error error) : error.IsRuleError := by
  cases source with
  | function apply => cases failed
  | table entries =>
      rw [ofSource?, ofTable?] at failed
      split at failed
      · cases failed
        exact .emptyLookupTable name
      · cases failed
  | parser own => cases failed

namespace Case

variable {definition : CaseDefinition} {error : Error}

/-- Parsers of a case that are refused are an error of its rule. -/
theorem isRuleError_of_buildParsers {sources : List (String × ParserSource)}
    (failed : buildParsers sources = .error error) : error.IsRuleError := by
  induction sources with
  | nil => cases failed
  | cons source rest ih =>
      rcases eq_error_of_bind failed with first | ⟨parser, -, failed⟩
      · exact ValueParser.isRuleError_of_ofSource? first
      · rcases eq_error_of_bind failed with others | ⟨parsers, -, failed⟩
        · exact ih others
        · cases failed

/-- An output that is missing is an error of its rule. -/
theorem isRuleError_of_output? (failed : output? definition = .error error) : error.IsRuleError := by
  rw [output?] at failed
  split at failed
  · cases failed
  · split at failed
    · cases failed
    · cases failed
      exact .missingProperty .message

/-- The output of a rule requires no mode, as its template is fixed. -/
theorem mode?_of_fixed {output : Output}
    (fixed : ∀ template, definition.message = some template → template.mode? = none)
    (made : output? definition = .ok output) : output.mode? = none := by
  rw [output?] at made
  split at made
  · cases made
    rfl
  · split at made
    · next template given =>
        cases made
        exact fixed template given
    · cases made

/-- The error of a definition without a function template is not one of modes. -/
theorem isRuleError_of_compile
    (fixed : ∀ template, definition.message = some template → template.mode? = none)
    (failed : compile definition = .error error) : error.IsRuleError := by
  rw [compile] at failed
  split at failed
  · cases failed
    exact .missingProperty .name
  · rcases eq_error_of_bind failed with unwritten | ⟨output, made, failed⟩
    · exact isRuleError_of_output? unwritten
    cases compiled : Condition.compile? definition.condition with
    | none =>
        rw [compiled] at failed
        cases failed
        exact .invalidPattern definition.name
    | some condition =>
        rw [compiled] at failed
        rcases eq_error_of_bind failed with impossible | ⟨_, -, failed⟩
        · cases impossible
        rcases eq_error_of_bind failed with unbuilt | ⟨parsers, -, failed⟩
        · exact isRuleError_of_buildParsers unbuilt
        -- Only here could modes clash.
        · rcases eq_error_of_bind failed with clash | ⟨_, -, failed⟩
          · rw [checkMode, mode?_of_fixed fixed made] at clash
            cases clash
          · rw [ParseDefinition.buildPlan_eq] at failed
            cases failed

end Case

namespace Catalog

/-! ## Errors of loading -/

/-- A registration fails to build its item, or its name is taken. -/
theorem isRuleError_of_register {catalog : Catalog} {registration : Registration} {error : Error}
    (unbuilt : registration.build catalog = .error error → error.IsRuleError)
    (failed : (catalog.register registration).1 = .error error) : error.IsRuleError := by
  rw [fst_register, refusal?] at failed
  cases built : registration.build catalog with
  | error own =>
      rw [built] at failed
      cases failed
      exact unbuilt built
  | ok item =>
      rw [built] at failed
      simp only [Scope.clash?] at failed
      split at failed
      · cases failed
        cases item with
        | ofCase value => exact .duplicateCase value.name _
        | ofParser value => exact .duplicateParser value.name _
      · cases failed

/-- A call, or the error in place of one, that can only fail with an error of rule files. -/
def OnlyRuleErrors (attempt : Except Error Call) : Prop :=
  ∀ (catalog : Catalog) (error : Error),
    (catalog.performAll [attempt]).1 = .error error → error.IsRuleError

/-- A registration that is refused for its rule fails with an error of the rule or a duplicate. -/
theorem OnlyRuleErrors.of_register {registration : Registration}
    (unbuilt : ∀ catalog error, registration.build catalog = .error error → error.IsRuleError) :
    OnlyRuleErrors (.ok (.register registration)) := by
  intro catalog error failed
  rw [performAll_singleton] at failed
  exact isRuleError_of_register (unbuilt catalog error) failed

/-- An attempt that makes no call fails with the error of its rule. -/
theorem OnlyRuleErrors.of_error {error : Error} (belongs : error.IsRuleError) : OnlyRuleErrors (.error error) := by
  intro catalog other failed
  cases failed
  exact belongs

/-- A table of a rule file fails with an error of rules only. -/
theorem onlyRuleErrors_table (name : String) (entries : LookupTable) (scope : Option String) :
    OnlyRuleErrors (.ok (.register (.ofParser name (.table entries) scope))) := by
  refine .of_register ?_
  intro catalog error failed
  exact ValueParser.isRuleError_of_ofSource? (eq_error_of_map failed)

/-- The messages in rule files are fixed texts, so that no mode can be amiss. -/
theorem onlyRuleErrors_case (rule : RuleCase) (origin : Origin) (scope : Option String) :
    OnlyRuleErrors ((rule.definition? origin).map fun definition =>
      .register (.ofCase definition scope)) := by
  have reads := (rule.definition?_eq_iff origin _).mp rfl
  generalize rule.definition? origin = result at reads ⊢
  cases reads with
  | nameless absent => exact .of_error (.missingProperty .name)
  | conditionless named nonempty absent => exact .of_error (.missingProperty .condition)
  | malformed named nonempty given refused => exact .of_error refused.isRuleError
  | complete named nonempty given accepted parsed =>
      refine .of_register ?_
      intro catalog error failed
      refine Case.isRuleError_of_compile ?_ (eq_error_of_map failed)
      intro template given
      obtain ⟨text, -, rfl⟩ := Option.map_eq_some_iff.mp given
      rfl

/-- A kept message of a rule file fails with an error of rules only. -/
theorem onlyRuleErrors_passthrough (rule : RulePassthrough) (origin : Origin) (scope : Option String) :
    OnlyRuleErrors ((rule.passthrough? origin).map fun passthrough =>
      .register (.ofPassthrough passthrough scope)) := by
  have reads := (rule.passthrough?_eq_iff origin _).mp rfl
  generalize rule.passthrough? origin = result at reads ⊢
  cases reads with
  | malformed refused => exact .of_error refused.isRuleError
  | complete accepted =>
      refine .of_register ?_
      intro catalog error failed
      refine Case.isRuleError_of_compile ?_ (eq_error_of_map failed)
      intro template given
      cases given

/-- Opening a scope never fails. -/
theorem onlyRuleErrors_openScope (name : String) : OnlyRuleErrors (.ok (.openScope name)) := nofun

/-- All attempts of a section fail with errors of rules only. -/
theorem onlyRuleErrors_of_mem_section {document : Nat} {place : List Nat} {scope : String}
    {rules : RuleSection} {attempt : Except Error Call}
    (member : attempt ∈ rules.calls document place scope) : OnlyRuleErrors attempt := by
  rw [RuleSection.calls, List.mem_append, List.mem_append] at member
  rcases member with (table | rule) | rule
  · obtain ⟨entry, -, rfl⟩ := List.mem_map.mp table
    exact onlyRuleErrors_table entry.1 entry.2 _
  · obtain ⟨entry, -, rfl⟩ := List.mem_map.mp rule
    exact onlyRuleErrors_case entry.1 _ _
  · obtain ⟨entry, -, rfl⟩ := List.mem_map.mp rule
    exact onlyRuleErrors_passthrough entry.1 _ _

/-- Nothing in a rule file can fail with another error. -/
theorem onlyRuleErrors_of_mem_calls {document : Nat} {rules : RuleSet} {attempt : Except Error Call}
    (member : attempt ∈ rules.calls document) : OnlyRuleErrors attempt := by
  rw [RuleSet.calls, List.mem_append] at member
  rcases member with global | other
  · exact onlyRuleErrors_of_mem_section global
  · obtain ⟨entry, -, inside⟩ := List.mem_flatMap.mp other
    rcases List.mem_cons.mp inside with rfl | inside
    · exact onlyRuleErrors_openScope entry.1.1
    · exact onlyRuleErrors_of_mem_section inside

/-! ## Where loading stops -/

/-- A call that fails by itself leaves the catalog. -/
theorem performAll_singleton_of_error {catalog : Catalog} {attempt : Except Error Call}
    {error : Error} (failed : (catalog.performAll [attempt]).1 = .error error) :
    catalog.performAll [attempt] = (.error error, catalog) := by
  cases attempt with
  | error own =>
      cases failed
      rfl
  | ok call =>
      rw [performAll_singleton, perform_eq] at failed ⊢
      cases refused : catalog.refusal? call with
      | some own =>
          rw [refused] at failed
          cases failed
          rfl
      | none =>
          rw [refused] at failed
          cases failed

theorem performAll_cons (catalog : Catalog) (attempt : Except Error Call)
    (rest : List (Except Error Call)) :
    catalog.performAll (attempt :: rest) =
      (catalog.performAll [attempt]).andThen fun next => next.performAll rest :=
  performAll_append catalog [attempt] rest

/-- One call of a sequence fails after all earlier ones have succeeded, and the catalog afterwards
is what these have made. -/
def StopsAt (catalog : Catalog) (attempts : List (Except Error Call)) (error : Error)
    (after : Catalog) : Prop :=
  ∃ earlier failing later, attempts = earlier ++ failing :: later ∧
    catalog.performAll earlier = (.ok (), after) ∧
    after.performAll [failing] = (.error error, after)

/-- A sequence fails exactly when it stops at a call. -/
theorem performAll_eq_error_iff (catalog after : Catalog) (attempts : List (Except Error Call))
    (error : Error) :
    catalog.performAll attempts = (.error error, after) ↔
      catalog.StopsAt attempts error after := by
  constructor
  · intro failed
    induction attempts generalizing catalog with
    | nil => cases failed
    | cons attempt rest ih =>
        rw [performAll_cons] at failed
        rcases first : catalog.performAll [attempt] with ⟨result, next⟩
        rw [first] at failed
        cases result with
        | error own =>
            -- The failing call has not touched the catalog that the earlier ones have made.
            have unchanged := performAll_singleton_of_error (congrArg Prod.fst first)
            obtain rfl : catalog = next := congrArg Prod.snd (unchanged.symm.trans first)
            have same : (Except.error own, catalog) = (Except.error error, after) := failed
            cases same
            exact ⟨[], attempt, rest, rfl, rfl, first⟩
        | ok result =>
            obtain ⟨earlier, failing, later, rfl, made, stops⟩ := ih next failed
            refine ⟨attempt :: earlier, failing, later, rfl, ?_, stops⟩
            rw [performAll_cons, first]
            exact made
  · rintro ⟨earlier, failing, later, rfl, made, stops⟩
    rw [performAll_append, made]
    change after.performAll (failing :: later) = _
    rw [performAll_cons, stops]
    rfl

/-- Loading stops with errors of rules only. -/
theorem isRuleError_of_stopsAt {catalog after : Catalog} {document : Nat} {rules : RuleSet}
    {error : Error} (stops : catalog.StopsAt (rules.calls document) error after) :
    error.IsRuleError := by
  obtain ⟨earlier, failing, later, listed, -, failed⟩ := stops
  have member : failing ∈ rules.calls document := by
    rw [listed]
    exact List.mem_append_right earlier List.mem_cons_self
  exact onlyRuleErrors_of_mem_calls member after error (congrArg Prod.fst failed)

/-! ## Scopes of items -/

/-- A case that names a scope goes there like a case without one that is added to this scope. -/
theorem addCase_own (catalog : Catalog) (definition : CaseDefinition) (scope : String) :
    catalog.addCase definition (some scope) =
      catalog.addCase { definition with scope := none }
        (some (definition.scope.getD scope)) := by
  rw [addCase, targetName_eq]
  rfl

/-- A message that is kept in a scope of its own goes there, wherever the section puts it. -/
theorem addPassthrough_own (catalog : Catalog) (passthrough : Passthrough) (scope : String) :
    catalog.addPassthrough passthrough (some scope) =
      catalog.addPassthrough { passthrough with scope := none }
        (some (passthrough.scope.getD scope)) := by
  rw [addPassthrough, passthroughDefinition, targetName_eq]
  rfl

/-- **Loading a rule file is registering its items by hand.** It has the effect and the outcome of
the single calls for its items, up to the first one that fails: for the global scope and then for
each other one, which is opened first, the tables, the cases and the conditions for messages that
are kept. These are converted in turn, and their own scopes win over those around them. The catalog
keeps its settings. After a failure it holds what the earlier items have made, and the error is
that of the failing one, which is of a few kinds only. -/
theorem loadRules_eq_calls (catalog : Catalog) (document : Nat) (rules : RuleSet) :
    catalog.loadRules document rules = catalog.performAll (rules.calls document) ∧
    (∀ (rule : RuleCase) (origin : Origin) (result : Except Error CaseDefinition),
      rule.definition? origin = result ↔ rule.Reads origin result) ∧
    (∀ (rule : RulePassthrough) (origin : Origin) (result : Except Error Passthrough),
      rule.passthrough? origin = result ↔ rule.Reads origin result) ∧
    (∀ (before : Catalog) (definition : CaseDefinition) (scope : String),
      before.addCase definition (some scope) =
        before.addCase { definition with scope := none }
          (some (definition.scope.getD scope))) ∧
    (∀ (before : Catalog) (passthrough : Passthrough) (scope : String),
      before.addPassthrough passthrough (some scope) =
        before.addPassthrough { passthrough with scope := none }
          (some (passthrough.scope.getD scope))) ∧
    (catalog.loadRules document rules).2.settings = catalog.settings ∧
    ∀ (error : Error) (after : Catalog), catalog.loadRules document rules = (.error error, after) →
      catalog.StopsAt (rules.calls document) error after ∧
      error.IsRuleError ∧ error.kind = .definition := by
  have same : catalog.loadRules document rules = catalog.performAll (rules.calls document) :=
    catalog.execute_eq_performAll (.loadRules document rules)
  refine ⟨same, RuleCase.definition?_eq_iff, RulePassthrough.passthrough?_eq_iff, addCase_own,
    addPassthrough_own, ?_, ?_⟩
  · rw [same]
    exact (catalog.evolves_performAll (rules.calls document)).settings_eq
  · intro error after failed
    have stops := (performAll_eq_error_iff catalog after _ error).mp (same.symm.trans failed)
    have belongs := isRuleError_of_stopsAt stops
    exact ⟨stops, belongs, belongs.kind_eq⟩

/-- A rule file in which a case is refused because an earlier one, written elsewhere, names the
scope of the later one as its own. -/
def clashingRules : RuleSet where
  global := {
    parsers := ⟨[("codes", ⟨[("1", [])]⟩)]⟩
    cases := [
      { name := some "a", condition := some (.literal "x"), keepsMessage := true,
        scope := some "net" }] }
  scopes := ⟨[
    ("spare", {}),
    ("net", {
      cases := [{ name := some "a", condition := some (.literal "y"), keepsMessage := true }] }),
    ("late", {})]⟩

/-- What was registered before stays, with a scope that has no rules; the scope after the failure
is not opened. -/
theorem loadRules_eq_calls_clashingRules :
    ((new {} .hexadecimal).loadRules 0 clashingRules).1 = .error (.duplicateCase "a" "net") ∧
    ((new {} .hexadecimal).loadRules 0 clashingRules).2.scopeNames =
      ["global", "net", "spare"] ∧
    (new {} .hexadecimal).StopsAt (clashingRules.calls 0) (.duplicateCase "a" "net")
      ((new {} .hexadecimal).loadRules 0 clashingRules).2 :=
  ⟨rfl, rfl, ((loadRules_eq_calls (new {} .hexadecimal) 0 clashingRules).2.2.2.2.2.2
    (.duplicateCase "a" "net") _ rfl).1⟩

end Catalog

end ErrorCatalog
