import Mathlib.Data.List.Forall2
import ErrorCatalog.Proofs.Case.Values

/-!
# Parameters of reports

The parameters of a report are those of the groups that took part in the match,
one for each group in order (`Case.listed_of_valuesFrom`), and they have the mode
of the case, which is the one that a function template requires
(`Case.eq_mode_of_required`). So `Case.params_of_parse` says what a template can
rely on: it gets the parameters of the report, all of them.
-/

namespace ErrorCatalog

open Pattern (Participant)

/-- Collected parameters have the mode that they are collected for. -/
theorem Params.mode_collect (mode : CaptureMode) (names : List String) (values : List Value) :
    (collect mode names values).mode = mode := by
  cases mode <;> rfl

/-- The parameters in order, with the names that they have. -/
def Params.listed : Params → List (Option String × Value)
  | .positional values => values.map fun value => (none, value)
  | .named values => values.entries.map fun entry => (some entry.1, entry.2)

namespace Case

variable {definition : CaseDefinition} {compiled : Case} {scopes : List Scope}

section Report

variable {message : String} {context : Option Fields} {report : Report}

/-- A report keeps the message, or it is written by the template of the case from what was
extracted. -/
theorem report_of_parse (parsed : compiled.parse message scopes context = .ok (some report)) :
    (compiled.output = .kept ∧ report = compiled.keptReport message (context.getD [])) ∨
    ∃ template extraction params, compiled.output = .template template ∧
      compiled.condition.extract? message = some extraction ∧
      compiled.params scopes extraction = .ok params ∧
      report = ⟨template.render params, params, context.getD []⟩ := by
  rw [parse] at parsed
  cases output : compiled.output with
  | kept =>
      simp only [output] at parsed
      split at parsed
      · cases parsed
        exact Or.inl ⟨rfl, rfl⟩
      · cases parsed
  | template template =>
      simp only [output] at parsed
      split at parsed
      · cases parsed
      · next extraction extracted =>
          obtain ⟨params, read, written⟩ := exists_of_bind_eq_ok parsed
          cases written
          exact Or.inr ⟨template, extraction, params, rfl, extracted, read, rfl⟩

/-- A template requires the mode of its case. -/
theorem eq_mode_of_required (compiles : compile definition = .ok compiled) {mode : CaptureMode}
    (required : compiled.output.mode? = some mode) : mode = compiled.mode := by
  obtain ⟨-, output, condition, parsers, -, -, -, checked, rfl⟩ :=
    (compile_eq_ok_iff definition compiled).mp compiles
  rw [checkMode, required] at checked
  rw [Case.mode, ParseDefinition.mode_plan]
  by_contra apart
  simp [apart] at checked

/-- A template that requires a mode gets parameters of this mode, all of them. -/
theorem render_of_mode (template : Template) (params : Params)
    (fits : ∀ mode, template.mode? = some mode → mode = params.mode) :
    (∀ write, template = .positional write → ∃ values, params = .positional values ∧
      template.render params = write values) ∧
    (∀ write, template = .named write → ∃ values, params = .named values ∧
      template.render params = write values) := by
  constructor
  · rintro write rfl
    cases params with
    | positional values => exact ⟨values, rfl, rfl⟩
    | named values => cases fits _ rfl
  · rintro write rfl
    cases params with
    | positional values => cases fits _ rfl
    | named values => exact ⟨values, rfl, rfl⟩

/-- There is one parameter for each group, with the name that the group has. -/
theorem listed_of_valuesFrom {parse : ParseDefinition} {participants : List Participant}
    {mode : CaptureMode} (declared : ∀ group ∈ participants, group.mode = mode) (place : Nat)
    {values : List Value}
    (made : compiled.valuesFrom scopes parse place participants = .ok values) :
    List.Forall₂ (fun placed parameter => parameter.1 = placed.1.name ∧
        compiled.valueOf scopes parse placed = .ok parameter.2)
      (participants.zipIdx place)
      (Params.collect mode (participants.filterMap (·.name)) values).listed := by
  induction participants generalizing place values with
  | nil =>
      cases made
      cases mode <;> exact .nil
  | cons group rest ih =>
      rw [valuesFrom_cons] at made
      obtain ⟨value, first, made⟩ := exists_of_bind_eq_ok made
      obtain ⟨later, others, made⟩ := exists_of_bind_eq_ok made
      cases made
      have listed := ih (fun other member => declared other (List.mem_cons_of_mem _ member))
        (place + 1) others
      have own := declared group List.mem_cons_self
      rw [List.zipIdx_cons]
      cases mode with
      | positional => exact .cons ⟨((group.mode_eq_positional_iff).mp own).symm, first⟩ listed
      | named =>
          -- Names and values are zipped, so the name of the group meets its own value.
          obtain ⟨name, named⟩ := Option.ne_none_iff_exists'.mp ((group.mode_eq_named_iff).mp own)
          rw [List.filterMap_cons_some named]
          exact .cons ⟨named.symm, first⟩ listed

/-- Parameters that can be parsed are those of groups of the mode of the case. -/
theorem declared_of_params (compiles : compile definition = .ok compiled)
    {participants : List Participant} {extraction : Extraction}
    (classified : Extraction.Classified participants extraction) {params : Params}
    (read : compiled.params scopes extraction = .ok params) :
    (∀ group ∈ participants, group.mode = compiled.mode) ∧
    ∃ values, params = Params.collect compiled.mode (participants.filterMap (·.name)) values ∧
      compiled.valuesFrom scopes (instructions definition compiled.output) 0 participants =
        .ok values := by
  rcases Participant.modes_cases participants compiled.mode with
    ⟨named, unnamed⟩ | ⟨some, captured, opposite, all⟩ | declared
  · rw [params_of_mixed classified named unnamed] at read
    cases read
  · rw [params_of_opposite classified some all opposite] at read
    cases read
  · rw [params_of_declared classified compiles declared] at read
    obtain ⟨values, made, rfl⟩ := exists_of_map_eq_ok read
    exact ⟨declared, values, rfl, made⟩

/-- **Templates get all parameters, in the mode they require.** Let a definition compile and the case
report on a message. The parameters have the mode of the case. If the case keeps messages, there
are none. Otherwise there is one for each group that took part in the match, in the order of the
pattern and with the name that the group has, and its value is what the instruction for it makes
of the captured text. They are what the template is rendered with: if it is a function, it requires
their mode and gets all of them. -/
theorem params_of_parse (definition : CaseDefinition) (compiled : Case)
    (compiles : compile definition = .ok compiled) (message : String) (scopes : List Scope)
    (context : Option Fields) (report : Report)
    (parsed : compiled.parse message scopes context = .ok (some report)) :
    report.params.mode = compiled.mode ∧
    (definition.keepsMessage = true → report.params = Params.empty compiled.mode) ∧
    (definition.keepsMessage = false → ∃ participants template,
      compiled.condition.pattern.participants? message = some participants ∧
      definition.message = some template ∧
      List.Forall₂ (fun placed parameter => parameter.1 = placed.1.name ∧
          compiled.valueOf scopes (instructions definition compiled.output) placed =
            .ok parameter.2)
        participants.zipIdx report.params.listed ∧
      report.message = template.render report.params ∧
      (∀ mode, template.mode? = some mode → mode = report.params.mode) ∧
      (∀ write, template = .positional write → ∃ values, report.params = .positional values ∧
        report.message = write values) ∧
      (∀ write, template = .named write → ∃ values, report.params = .named values ∧
        report.message = write values)) := by
  rcases report_of_parse parsed with
    ⟨kept, rfl⟩ | ⟨template, extraction, params, output, extracted, read, rfl⟩
  · refine ⟨Params.mode_empty compiled.mode, fun _ => rfl, ?_⟩
    intro replaces
    rcases output_of_compile compiles with ⟨keeps, -⟩ | ⟨-, template, -, output⟩
    · exact absurd (keeps.symm.trans replaces) (by decide)
    · cases kept.symm.trans output
  · rcases output_of_compile compiles with ⟨-, kept⟩ | ⟨replaces, given, written, made⟩
    · cases kept.symm.trans output
    cases made.symm.trans output
    obtain ⟨-, participants, took, classified⟩ := Condition.exists_classified extracted
    obtain ⟨declared, values, rfl, parameters⟩ := declared_of_params compiles classified read
    have mode := Params.mode_collect compiled.mode (participants.filterMap (·.name)) values
    have fits : ∀ required, template.mode? = some required →
        required = (Params.collect compiled.mode (participants.filterMap (·.name)) values).mode := by
      intro required requires
      rw [mode]
      apply eq_mode_of_required compiles
      rw [output]
      exact requires
    obtain ⟨positional, named⟩ := render_of_mode template _ fits
    refine ⟨mode, fun keeps => absurd (keeps.symm.trans replaces) (by decide), ?_⟩
    intro _
    exact ⟨participants, template, took, written, listed_of_valuesFrom declared 0 parameters, rfl,
      fits, positional, named⟩

/-- A case with a template for named parameters and without instructions. -/
def namedLetter (keepsMessage : Bool) : CaseDefinition where
  name := "letter"
  condition := .pattern Pattern.eitherKind
  message := some (.named fun values => String.join values.names)
  keepsMessage := keepsMessage

/-- The template gets the only group that took part, under its name. If the case keeps messages, the
template plays no role, and there are no parameters. -/
theorem params_of_parse_namedLetter :
    (∃ compiled report, compile (namedLetter false) = .ok compiled ∧
      compiled.parse "x" [] none = .ok (some report) ∧
      ∃ values, report.params = .named values ∧ report.message = String.join values.names) ∧
    (∃ compiled report, compile (namedLetter true) = .ok compiled ∧
      compiled.parse "x" [] none = .ok (some report) ∧ report.params = .positional []) := by
  obtain ⟨took, -⟩ := Pattern.participants?_eitherKind
  have extracted : Condition.extract? ⟨Pattern.eitherKind⟩ "x" =
      some (.named ⟨[("a", "x")]⟩) :=
    (Condition.extract?_eq_some_iff took _).mpr (.named (by decide) (by decide))
  constructor
  · obtain ⟨compiled, compiles⟩ : ∃ compiled, compile (namedLetter false) = .ok compiled := ⟨_, rfl⟩
    have parsed : ∃ report, compiled.parse "x" [] none = .ok (some report) := by
      cases compiles
      simp only [parse]
      rw [extracted]
      exact ⟨_, rfl⟩
    obtain ⟨report, parsed⟩ := parsed
    obtain ⟨-, -, replaced⟩ := params_of_parse _ compiled compiles "x" [] none report parsed
    obtain ⟨participants, template, -, written, -, -, -, -, named⟩ := replaced rfl
    cases written
    exact ⟨compiled, report, compiles, parsed, named _ rfl⟩
  · have matched := (Pattern.participants?_isSome _ _).symm.trans (congrArg Option.isSome took)
    obtain ⟨compiled, compiles, mode, parsed⟩ : ∃ compiled,
        compile (namedLetter true) = .ok compiled ∧ compiled.mode = .positional ∧
          compiled.parse "x" [] none = .ok (some (compiled.keptReport "x" [])) :=
      ⟨_, rfl, rfl, if_pos matched⟩
    have empty := (params_of_parse _ compiled compiles "x" [] none _ parsed).2.1 rfl
    rw [mode] at empty
    exact ⟨compiled, _, compiles, parsed, empty⟩

end Report

end Case

end ErrorCatalog
