import ErrorCatalog.Proofs.Catalog.WellFormed
import ErrorCatalog.Proofs.Transform.FirstMatch

/-!
# When a transformation fails

A transformation can fail for four reasons, each of which counts only if the
ones before it do not: the input has no message, a case that is asked for is
missing, a scope that is asked for is missing, the deciding case cannot treat
the message. `Catalog.Fails` lists them, and `Catalog.transform_eq_error_iff`
says that there are no others.

The deciding case is the first candidate whose condition matches
(`Catalog.deciding?`); without one a transformation cannot fail
(`Catalog.transform_eq`).
-/

namespace ErrorCatalog

/-! ## Errors of matching cases -/

namespace Case

variable {compiled : Case} {scopes : List Scope} {error : Error}

/-- Steps fail with errors of matching. -/
theorem kind_of_runSteps {steps : Option (List Step)} {value : Value}
    (failed : compiled.runSteps scopes steps value = .error error) : error.kind = .matching := by
  rw [runSteps] at failed
  split at failed
  · cases failed
  · cases failed
    rfl

/-- Positional values fail with errors of matching. -/
theorem kind_of_positionalValues {steps : List (List Step)} {index : Nat} {texts : List String}
    (failed : compiled.positionalValues scopes steps index texts = .error error) :
    error.kind = .matching := by
  induction texts generalizing index with
  | nil => cases failed
  | cons text rest ih =>
      rcases eq_error_of_bind failed with first | ⟨value, -, failed⟩
      · exact kind_of_runSteps first
      · rcases eq_error_of_bind failed with others | ⟨values, -, failed⟩
        · exact ih others
        · cases failed

/-- Named values fail with errors of matching. -/
theorem kind_of_namedValues {steps : Register (List Step)} {texts : List (String × String)}
    (failed : compiled.namedValues scopes steps texts = .error error) :
    error.kind = .matching := by
  induction texts with
  | nil => cases failed
  | cons entry rest ih =>
      rcases eq_error_of_bind failed with first | ⟨value, -, failed⟩
      · exact kind_of_runSteps first
      · rcases eq_error_of_bind failed with others | ⟨values, -, failed⟩
        · exact ih others
        · cases failed

/-- Parameters fail with errors of matching. -/
theorem kind_of_params {extraction : Extraction}
    (failed : compiled.params scopes extraction = .error error) : error.kind = .matching := by
  cases extraction with
  | mixed =>
      cases failed
      rfl
  | positional texts =>
      cases texts with
      | nil => cases failed
      | cons text rest =>
          simp only [params] at failed
          split at failed
          · rcases eq_error_of_bind failed with values | ⟨values, -, failed⟩
            · exact kind_of_positionalValues values
            · cases failed
          · cases failed
            rfl
  | named texts =>
      rw [params] at failed
      split at failed
      · cases failed
        rfl
      · rcases eq_error_of_bind failed with values | ⟨values, -, failed⟩
        · exact kind_of_namedValues values
        · cases failed

/-- Whatever makes a case fail on a message, the error is one of matching. -/
theorem kind_of_parse {message : String} {context : Option Fields}
    (failed : compiled.parse message scopes context = .error error) : error.kind = .matching := by
  rw [parse] at failed
  cases output : compiled.output with
  | kept =>
      simp only [output] at failed
      split at failed <;> cases failed
  | template template =>
      simp only [output] at failed
      split at failed
      · cases failed
      · rcases eq_error_of_bind failed with params | ⟨params, -, failed⟩
        · exact kind_of_params params
        · cases failed

end Case

/-! ## The deciding case -/

namespace Catalog

/-- The first candidate whose condition matches a message. -/
def deciding? (catalog : Catalog) (selection : Selection) (message : String) : Option Case :=
  (catalog.candidates selection).find? fun candidate => candidate.condition.isMatch message

/-- The first name of a case that is asked for and missing; names of cases do not count when the
global scope is asked for. -/
def missingCase? (catalog : Catalog) (selection : Selection) : Option String :=
  if globalName ∈ selection.scopes then none
  else selection.cases.find? fun name => !catalog.global.hasCase name

/-- The first name of a scope that is asked for and missing, unless missing ones count as empty. -/
def missingScope? (catalog : Catalog) (selection : Selection) : Option String :=
  if catalog.settings.createMissingScopes then none
  else selection.scopes.find? fun name => !catalog.hasScope name

/-- The first requested scope that is missing is `missingScope?`. -/
theorem find?_isMissing (catalog : Catalog) (selection : Selection) :
    selection.scopes.find? catalog.isMissing = catalog.missingScope? selection := by
  rw [missingScope?]
  cases lenient : catalog.settings.createMissingScopes with
  | true =>
      rw [if_pos rfl, List.find?_eq_none]
      intro name _
      simp [isMissing, lenient]
  | false =>
      rw [if_neg Bool.false_ne_true]
      congr 1
      funext name
      simp [isMissing, lenient]

/-- A selection resolves when neither a case nor a scope that it asks for is missing. -/
theorem resolves_iff (catalog : Catalog) (selection : Selection) :
    catalog.Resolves selection ↔
      catalog.missingCase? selection = none ∧ catalog.missingScope? selection = none := by
  constructor
  · intro resolves
    refine ⟨?_, (catalog.find?_isMissing selection).symm.trans resolves.find?_isMissing⟩
    rw [missingCase?]
    split
    · rfl
    · next unasked =>
        rw [List.find?_eq_none]
        intro name member
        have named : selection.cases ≠ [] := List.ne_nil_of_mem member
        simp [resolves.cases named unasked name member]
  · rintro ⟨cases, scopes⟩
    constructor
    · intro _ unasked name member
      rw [missingCase?, if_neg unasked] at cases
      simpa using List.find?_eq_none.mp cases name member
    · intro strict name member
      rw [missingScope?, strict, if_neg Bool.false_ne_true] at scopes
      simpa using List.find?_eq_none.mp scopes name member

/-- A named case that the global scope lacks is refused. -/
theorem explicitCases_of_missingCase? {catalog : Catalog} {selection : Selection}
    {name : String} (missing : catalog.missingCase? selection = some name) :
    catalog.explicitCases selection = .error (.caseNotFound name catalog.global.name) := by
  rw [missingCase?] at missing
  split at missing
  · cases missing
  · next unasked => rw [explicitCases_eq, if_neg unasked, missing]

/-- Named cases that the global scope has are all found. -/
theorem explicitCases_of_no_missingCase? {catalog : Catalog} {selection : Selection}
    (present : catalog.missingCase? selection = none) :
    ∃ cases, catalog.explicitCases selection = .ok cases := by
  rw [missingCase?] at present
  rw [explicitCases_eq]
  split at present
  · next asked => exact ⟨[], if_pos asked⟩
  · next unasked => exact ⟨_, by rw [if_neg unasked, present]⟩

/-- The first missing case is reported, else the first missing scope. -/
theorem plan_eq_missing (catalog : Catalog) (selection : Selection) :
    catalog.plan selection =
      match catalog.missingCase? selection, catalog.missingScope? selection with
      | some name, _ => .error (.caseNotFound name catalog.global.name)
      | none, some name => .error (.scopeNotFound name)
      | none, none => .ok ⟨catalog.candidates selection, catalog.visibleScopes selection⟩ := by
  cases cases : catalog.missingCase? selection with
  | some name => rw [plan_eq, explicitCases_of_missingCase? cases]
  | none =>
      cases scopes : catalog.missingScope? selection with
      | some name =>
          obtain ⟨explicit, found⟩ := explicitCases_of_no_missingCase? cases
          rw [plan_eq, find?_isMissing, scopes, found]
      | none => exact plan_of_resolves ((catalog.resolves_iff selection).mpr ⟨cases, scopes⟩)

/-- The deciding case matches. -/
theorem isMatch_of_deciding? {catalog : Catalog} {selection : Selection} {message : String}
    {decisive : Case} (first : catalog.deciding? selection message = some decisive) :
    decisive.condition.isMatch message = true := by
  have matched := List.find?_some first
  exact matched

/-- No case decides exactly if none matches. -/
theorem deciding?_eq_none_iff (catalog : Catalog) (selection : Selection) (message : String) :
    catalog.deciding? selection message = none ↔
      ∀ candidate ∈ catalog.candidates selection, candidate.condition.isMatch message = false := by
  rw [deciding?, List.find?_eq_none]
  simp only [Bool.not_eq_true]

/-- The candidates are tried up to the one that decides. -/
theorem firstReport_candidates (catalog : Catalog) (selection : Selection) (message : String)
    (visible : List Scope) (context : Option Fields) :
    firstReport message visible context (catalog.candidates selection) =
      match catalog.deciding? selection message with
      | none => .ok none
      | some decisive => decisive.parse message visible context := by
  cases first : catalog.deciding? selection message with
  | none =>
      have unmatched := (catalog.deciding?_eq_none_iff selection message).mp first
      exact firstReport_of_unmatched message visible context unmatched
  | some decisive =>
      obtain ⟨matched, earlier, later, listed, unmatched⟩ :=
        List.find?_eq_some_iff_append.mp first
      rw [listed]
      exact firstReport_of_first message visible context later
        (fun candidate member => by simpa using unmatched candidate member) matched

/-- A transformation whose input is accepted and whose selection resolves fails only if the
deciding case does. -/
theorem transform_eq {catalog : Catalog} {input : Input} {selection : Selection}
    {message : String} {context : Option Fields}
    (accepted : catalog.normalise input = .ok (message, context))
    (cases : catalog.missingCase? selection = none)
    (scopes : catalog.missingScope? selection = none) :
    catalog.transform input selection =
      match catalog.deciding? selection message with
      | none => .ok (unmatchedReport message selection.fallback)
      | some decisive =>
          (decisive.parse message (catalog.visibleScopes selection) context).map fun report =>
            report.getD (unmatchedReport message selection.fallback) := by
  rw [transform_eq_firstReport accepted ((catalog.resolves_iff selection).mpr ⟨cases, scopes⟩),
    firstReport_candidates]
  cases catalog.deciding? selection message <;> rfl

/-! ## The reasons to fail -/

/-- How a transformation fails, and with which error. -/
inductive Fails (catalog : Catalog) (selection : Selection) : Input → Error → Prop
  /-- An object has no message, or one that is no string. -/
  | input {fields : Fields}
      (lacking : ∀ text, Fields.find? fields "message" ≠ some (.string text)) :
      Fails catalog selection (.object fields) (.invalidInput (.object fields))
  /-- There is a message, but not the case of a name that is asked for. -/
  | missingCase {input : Input} {message : String} {context : Option Fields} {name : String}
      (accepted : catalog.normalise input = .ok (message, context))
      (missing : catalog.missingCase? selection = some name) :
      Fails catalog selection input (.caseNotFound name globalName)
  /-- There are a message and all the cases, but not the scope of a name that is asked for. -/
  | missingScope {input : Input} {message : String} {context : Option Fields} {name : String}
      (accepted : catalog.normalise input = .ok (message, context))
      (cases : catalog.missingCase? selection = none)
      (missing : catalog.missingScope? selection = some name) :
      Fails catalog selection input (.scopeNotFound name)
  /-- Nothing is missing, but the deciding case fails on the message. -/
  | deciding {input : Input} {message : String} {context : Option Fields} {decisive : Case}
      {error : Error}
      (accepted : catalog.normalise input = .ok (message, context))
      (cases : catalog.missingCase? selection = none)
      (scopes : catalog.missingScope? selection = none)
      (first : catalog.deciding? selection message = some decisive)
      (failed : decisive.parse message (catalog.visibleScopes selection) context = .error error) :
      Fails catalog selection input error

/-- An input is accepted unless it is an object without a message. -/
theorem normalise_eq_error_iff (catalog : Catalog) (input : Input) (error : Error) :
    catalog.normalise input = .error error ↔
      ∃ fields, input = .object fields ∧ error = .invalidInput (.object fields) ∧
        ∀ text, Fields.find? fields "message" ≠ some (.string text) := by
  cases input with
  | message text => simp [normalise]
  | object fields =>
      have lacking : Input.message? fields = none ↔
          ∀ text, Fields.find? fields "message" ≠ some (.string text) := by
        rw [Input.message?, Input.messageField]
        split
        · next text found => simp [found]
        · next absent => exact ⟨fun _ text found => absent text found, fun _ => rfl⟩
      rw [normalise]
      cases read : Input.message? fields with
      | some text =>
          rw [read] at lacking
          simp [← lacking]
      | none =>
          rw [read] at lacking
          simp [← lacking, eq_comm]

section Phases

variable {catalog : Catalog} {input : Input} {selection : Selection} {error : Error}

/-- An input that is refused fails, whatever is selected. -/
theorem transform_of_refused (refused : catalog.normalise input = .error error) :
    catalog.transform input selection = .error error := by
  rw [transform, refused]
  rfl

/-- A selection that does not resolve fails, whatever the message. -/
theorem transform_of_unplanned {message : String} {context : Option Fields}
    (accepted : catalog.normalise input = .ok (message, context))
    (unplanned : catalog.plan selection = .error error) :
    catalog.transform input selection = .error error := by
  rw [transform, accepted, unplanned]
  rfl

/-- The phases of a transformation: the input is read, then a missing case is reported, then a
missing scope, and then the deciding case gives the outcome. -/
theorem transform_phases (catalog : Catalog) (input : Input) (selection : Selection) :
    catalog.transform input selection =
      match catalog.normalise input, catalog.missingCase? selection,
        catalog.missingScope? selection with
      | .error error, _, _ => .error error
      | .ok _, some name, _ => .error (.caseNotFound name catalog.global.name)
      | .ok _, none, some name => .error (.scopeNotFound name)
      | .ok (message, context), none, none =>
          match catalog.deciding? selection message with
          | none => .ok (unmatchedReport message selection.fallback)
          | some decisive =>
              (decisive.parse message (catalog.visibleScopes selection) context).map fun report =>
                report.getD (unmatchedReport message selection.fallback) := by
  cases accepted : catalog.normalise input with
  | error error => exact transform_of_refused accepted
  | ok read =>
      have planned := catalog.plan_eq_missing selection
      cases cases : catalog.missingCase? selection with
      | some name =>
          rw [cases] at planned
          exact transform_of_unplanned accepted planned
      | none =>
          cases scopes : catalog.missingScope? selection with
          | some name =>
              rw [cases, scopes] at planned
              exact transform_of_unplanned accepted planned
          | none => exact transform_eq accepted cases scopes

/-- A transformation fails for the reasons that are listed, if the global scope has its name. -/
theorem fails_of_transform (named : catalog.global.name = globalName)
    (failed : catalog.transform input selection = .error error) :
    catalog.Fails selection input error := by
  cases accepted : catalog.normalise input with
  | error own =>
      rw [transform_of_refused accepted] at failed
      cases failed
      obtain ⟨fields, rfl, rfl, lacking⟩ := (catalog.normalise_eq_error_iff input _).mp accepted
      exact .input lacking
  | ok read =>
      obtain ⟨message, context⟩ := read
      have planned := catalog.plan_eq_missing selection
      cases cases : catalog.missingCase? selection with
      | some name =>
          rw [cases, named] at planned
          rw [transform_of_unplanned accepted planned] at failed
          cases failed
          exact .missingCase accepted cases
      | none =>
          cases scopes : catalog.missingScope? selection with
          | some name =>
              rw [cases, scopes] at planned
              rw [transform_of_unplanned accepted planned] at failed
              cases failed
              exact .missingScope accepted cases scopes
          | none =>
              rw [transform_eq accepted cases scopes] at failed
              cases first : catalog.deciding? selection message with
              | none =>
                  rw [first] at failed
                  cases failed
              | some decisive =>
                  rw [first] at failed
                  exact .deciding accepted cases scopes first (eq_error_of_map failed)

/-- Every failure that the phases allow occurs. -/
theorem transform_of_fails (named : catalog.global.name = globalName)
    (fails : catalog.Fails selection input error) :
    catalog.transform input selection = .error error := by
  have planned := catalog.plan_eq_missing selection
  cases fails with
  | input lacking =>
      exact transform_of_refused
        ((catalog.normalise_eq_error_iff _ _).mpr ⟨_, rfl, rfl, lacking⟩)
  | missingCase accepted missing =>
      rw [missing, named] at planned
      exact transform_of_unplanned accepted planned
  | missingScope accepted cases missing =>
      rw [cases, missing] at planned
      exact transform_of_unplanned accepted planned
  | deciding accepted cases scopes first failed =>
      rw [transform_eq accepted cases scopes, first]
      exact congrArg (Except.map _) failed

/-- A report comes from the deciding case, or from nothing but the message if there is none. -/
theorem report_of_transform {report : Report}
    (made : catalog.transform input selection = .ok report) :
    ∃ message context, catalog.normalise input = .ok (message, context) ∧
      match catalog.deciding? selection message with
      | none => report = unmatchedReport message selection.fallback
      | some decisive =>
          decisive.parse message (catalog.visibleScopes selection) context = .ok (some report) := by
  cases accepted : catalog.normalise input with
  | error own =>
      rw [transform_of_refused accepted] at made
      cases made
  | ok read =>
      obtain ⟨message, context⟩ := read
      refine ⟨message, context, rfl, ?_⟩
      cases planned : catalog.plan selection with
      | error own =>
          rw [transform_of_unplanned accepted planned] at made
          cases made
      | ok plan =>
          obtain ⟨cases, scopes⟩ := (catalog.resolves_iff selection).mp
            ((catalog.plan_eq_ok_iff selection).mp ⟨plan, planned⟩)
          rw [transform_eq accepted cases scopes] at made
          cases first : catalog.deciding? selection message with
          | none =>
              rw [first] at made
              exact (Except.ok.inj made).symm
          | some decisive =>
              rw [first] at made
              obtain ⟨outcome, parsed, rfl⟩ := exists_of_map_eq_ok made
              cases outcome with
              | none => exact absurd parsed (Case.parse_ne_none _ _ (isMatch_of_deciding? first))
              | some report => exact parsed

end Phases

/-- **When a transformation fails.** A transformation fails exactly for one of four reasons, in this
order: an object without a message, whatever is selected; the first missing case among those that
are asked for, also if a scope is missing too; the first missing scope; the error that the deciding
case makes of the message. It never fails with an error of a definition or of a rule file, once
nothing is missing only with one of matching, and never if no candidate matches. -/
theorem transform_eq_error_iff (catalog : Catalog) (reachable : catalog.Reachable) (input : Input)
    (selection : Selection) :
    (∀ error, catalog.transform input selection = .error error ↔
      catalog.Fails selection input error) ∧
    (∀ error, catalog.transform input selection = .error error →
      error.kind ≠ .definition ∧ error.kind ≠ .config) ∧
    (∀ message context, catalog.normalise input = .ok (message, context) →
      catalog.missingCase? selection = none → catalog.missingScope? selection = none →
      (∀ error, catalog.transform input selection = .error error → error.kind = .matching) ∧
      ((∀ candidate ∈ catalog.candidates selection,
          candidate.condition.isMatch message = false) →
        ∃ report, catalog.transform input selection = .ok report)) := by
  have named := reachable.wellFormed.global
  refine ⟨fun error => ⟨fails_of_transform named, transform_of_fails named⟩, ?_, ?_⟩
  · intro error failed
    cases fails_of_transform named failed with
    | input lacking => exact ⟨nofun, nofun⟩
    | missingCase accepted missing => exact ⟨nofun, nofun⟩
    | missingScope accepted cases missing => exact ⟨nofun, nofun⟩
    | deciding accepted cases scopes first failed =>
        rw [Case.kind_of_parse failed]
        exact ⟨nofun, nofun⟩
  · intro message context accepted cases scopes
    have outcome := transform_eq accepted cases scopes
    constructor
    · intro error failed
      cases first : catalog.deciding? selection message with
      | none =>
          rw [outcome, first] at failed
          cases failed
      | some decisive =>
          rw [outcome, first] at failed
          exact Case.kind_of_parse (eq_error_of_map failed)
    · intro unmatched
      have none : catalog.deciding? selection message = none :=
        List.find?_eq_none.mpr fun candidate member => by simp [unmatched candidate member]
      rw [none] at outcome
      exact ⟨_, outcome⟩

/-- A case with one parameter, whose parser has to be found in a scope. -/
def dependent : CaseDefinition where
  name := "dependent"
  condition := .pattern ⟨"(x)", [none], .group 1 (.literal ['x']), List.nodup_nil⟩
  message := some (.fixed "m")
  parse := some (.positional [.reference "p"])

/-- A catalog with this case only, in which a missing scope is an error. -/
def strictCatalog : Catalog :=
  (new { createMissingScopes := false } .hexadecimal).run
    [.single (.register (.ofCase dependent none))]

/-- The catalog is reached by registering its cases. -/
theorem strictCatalog_reachable : strictCatalog.Reachable := by
  apply reachable_register
  constructor
  · exact nofun
  · intro parse same instruction member
    cases same
    cases List.mem_singleton.mp member
    exact trivial

/-- An object without a message fails although a case and a scope are missing too, a missing case
wins over a missing scope, and with nothing missing the case cannot find its parser. -/
theorem transform_eq_error_iff_strictCatalog :
    strictCatalog.transform (.object []) { cases := ["a"], scopes := ["b"] } =
      .error (.invalidInput (.object [])) ∧
    strictCatalog.transform (.message "x") { cases := ["a"], scopes := ["b"] } =
      .error (.caseNotFound "a" "global") ∧
    strictCatalog.transform (.message "x") { scopes := ["b"] } = .error (.scopeNotFound "b") ∧
    strictCatalog.transform (.message "x") {} = .error (.unresolvedParser "p" "dependent") := by
  have characterised := fun input selection error =>
    (transform_eq_error_iff strictCatalog strictCatalog_reachable input selection).1 error
  refine ⟨?_, ?_, ?_, ?_⟩
  · exact (characterised _ _ _).mpr (.input nofun)
  · exact (characterised _ _ _).mpr (.missingCase rfl rfl)
  · exact (characterised _ _ _).mpr (.missingScope rfl rfl rfl)
  · exact (characterised _ _ _).mpr (.deciding rfl rfl rfl rfl rfl)

end Catalog

end ErrorCatalog
