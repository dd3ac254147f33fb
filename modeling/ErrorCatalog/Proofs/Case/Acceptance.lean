import ErrorCatalog.Proofs.Case.Compile
import ErrorCatalog.Proofs.Condition.Literal

/-!
# Which definitions compile

There are five requirements on a definition: a name, an output, a condition that
compiles, tables with entries, and instructions of the mode that the template
requires. `Case.compile_eq_error_iff` says that a definition compiles if it meets
all of them (`CaseDefinition.Accepted`), and else is refused for the first one
that it does not meet (`CaseDefinition.Refused`).

Of the parse instructions only the mode counts: compiling them is never refused
(`ParseDefinition.buildPlan_eq`).
-/

namespace ErrorCatalog

/-! ## Requirements -/

/-- A table without entries, the only source that no parser can be built from. -/
def ParserSource.isEmptyTable : ParserSource → Bool
  | function _ => false
  | table entries => entries.isEmpty
  | parser _ => false

/-- A condition that compiles: a pattern already has, and a literal text must not be so long that
its automaton gets too large. -/
def ConditionSpec.Compiles : ConditionSpec → Prop
  | literal text => Pattern.textSize text.toList ≤ Pattern.Layout.maxSize
  | pattern _ => True

namespace CaseDefinition

/-- It is said what becomes of messages: they are kept, or there is a template. -/
def HasOutput (definition : CaseDefinition) : Prop :=
  definition.keepsMessage = true ∨ definition.message ≠ none

/-- The mode that the template requires; there is none if messages are kept or the text is fixed. -/
def requiredMode? (definition : CaseDefinition) : Option CaptureMode :=
  if definition.keepsMessage then none else definition.message.bind Template.mode?

/-- The name of the first own parser that would be an empty table. -/
def emptyTable? (definition : CaseDefinition) : Option String :=
  (definition.parsers.entries.find? fun entry => entry.2.isEmptyTable).map (·.1)

/-- A definition that meets all requirements. -/
structure Accepted (definition : CaseDefinition) : Prop where
  named : definition.name ≠ ""
  output : definition.HasOutput
  condition : definition.condition.Compiles
  tables : ∀ entry ∈ definition.parsers.entries, entry.2.isEmptyTable = false
  modes : ∀ mode, definition.requiredMode? = some mode →
    ∀ parse, definition.parse = some parse → mode = parse.mode

/-- A definition that does not meet a requirement but all those before it, and the error. -/
inductive Refused (definition : CaseDefinition) : Error → Prop
  | name (nameless : definition.name = "") : Refused definition (.missingProperty .name)
  | message (named : definition.name ≠ "") (replaces : definition.keepsMessage = false)
      (missing : definition.message = none) : Refused definition (.missingProperty .message)
  | condition (named : definition.name ≠ "") (output : definition.HasOutput)
      (large : ¬ definition.condition.Compiles) :
      Refused definition (.invalidPattern definition.name)
  | table {key : String} (named : definition.name ≠ "") (output : definition.HasOutput)
      (condition : definition.condition.Compiles) (first : definition.emptyTable? = some key) :
      Refused definition (.emptyLookupTable key)
  | mode {required : CaptureMode} {parse : ParseDefinition} (named : definition.name ≠ "")
      (output : definition.HasOutput) (condition : definition.condition.Compiles)
      (tables : definition.emptyTable? = none)
      (requires : definition.requiredMode? = some required)
      (given : definition.parse = some parse) (apart : required ≠ parse.mode) :
      Refused definition (.templateModeMismatch definition.name required parse.mode)

/-- The definition with one more parser of its own; one that was given before under the name is
replaced in its place. -/
def withParser (definition : CaseDefinition) (name : String) (source : ParserSource) :
    CaseDefinition :=
  { definition with parsers := definition.parsers.insert name source }

/-- The definition with parsers of its own that are given one after the other. -/
def withParsers (definition : CaseDefinition) (given : List (String × ParserSource)) :
    CaseDefinition :=
  given.foldl (fun definition entry => definition.withParser entry.1 entry.2) definition

/-- No empty table is found exactly if no parser of the case is given by one. -/
theorem emptyTable?_eq_none_iff (definition : CaseDefinition) :
    definition.emptyTable? = none ↔
      ∀ entry ∈ definition.parsers.entries, entry.2.isEmptyTable = false := by
  rw [emptyTable?, Option.map_eq_none_iff, List.find?_eq_none]
  simp only [Bool.not_eq_true]

/-- Parsers given in turn are written to the register of the definition. -/
theorem withParsers_eq (definition : CaseDefinition) (given : List (String × ParserSource)) :
    definition.withParsers given =
      { definition with
        parsers := given.foldl (fun parsers entry => parsers.insert entry.1 entry.2)
          definition.parsers } := by
  induction given generalizing definition with
  | nil => rfl
  | cons entry rest ih => exact ih (definition.withParser entry.1 entry.2)

/-- Of the sources given under a name the last one counts, at the place of the first one. -/
theorem emptyTable?_withParsers {definition : CaseDefinition}
    (bare : definition.parsers = Register.empty) (given : List (String × ParserSource)) :
    (definition.withParsers given).emptyTable? =
      (given.map (·.1)).eraseDups.find? fun name =>
        (Register.findEntry? name given.reverse).any ParserSource.isEmptyTable := by
  have parsers : (definition.withParsers given).parsers = Register.ofList given := by
    rw [withParsers_eq, bare]
    rfl
  have places : ((Register.ofList given).entries.map (·.1)) = (given.map (·.1)).eraseDups :=
    Register.names_ofList given
  rw [emptyTable?, parsers, Register.map_fst_find? (Register.nodup_names_ofList given), places]
  have last : ∀ name, Register.findEntry? name (Register.ofList given).entries =
      Register.findEntry? name given.reverse := Register.find?_ofList given
  simp only [last]

end CaseDefinition

/-! ## Phases of compiling -/

/-- A condition is refused exactly if it does not compile. -/
theorem Condition.compile?_eq_none_iff (spec : ConditionSpec) :
    compile? spec = none ↔ ¬ spec.Compiles := by
  cases spec with
  | literal text =>
      rw [compile?_literal_eq, ConditionSpec.Compiles]
      split
      · next small => exact iff_of_false (Option.some_ne_none _) (not_not_intro small)
      · next large => exact iff_of_true rfl large
  | pattern pattern => exact iff_of_false (Option.some_ne_none _) (not_not_intro trivial)

/-- An empty table is refused under the name that it is given. -/
theorem ValueParser.ofSource?_of_isEmptyTable {source : ParserSource}
    (empty : source.isEmptyTable = true) (name : String) :
    ofSource? name source = .error (.emptyLookupTable name) := by
  cases source with
  | function apply => cases empty
  | table entries => exact if_pos empty
  | parser own => cases empty

/-- Any other source makes a parser. -/
theorem ValueParser.exists_ofSource? {source : ParserSource}
    (filled : source.isEmptyTable = false) (name : String) :
    ∃ parser, ofSource? name source = .ok parser := by
  cases source with
  | function apply => exact ⟨_, rfl⟩
  | table entries => exact ⟨⟨name, .table entries⟩, if_neg (Bool.eq_false_iff.mp filled)⟩
  | parser own => exact ⟨own, rfl⟩

namespace Case

variable {definition : CaseDefinition}

/-- Own parsers are built in order, up to the first empty table. -/
theorem buildParsers_eq_error_iff (sources : List (String × ParserSource)) (error : Error) :
    buildParsers sources = .error error ↔
      ∃ key, (sources.find? fun entry => entry.2.isEmptyTable).map (·.1) = some key ∧
        error = .emptyLookupTable key := by
  induction sources with
  | nil => exact iff_of_false nofun nofun
  | cons entry rest ih =>
      obtain ⟨name, source⟩ := entry
      cases empty : source.isEmptyTable with
      | true =>
          have refused := ValueParser.ofSource?_of_isEmptyTable empty name
          simp [buildParsers, refused, empty, Bind.bind, Except.bind, eq_comm]
      | false =>
          obtain ⟨parser, built⟩ := ValueParser.exists_ofSource? empty name
          have first : buildParsers ((name, source) :: rest) =
              (buildParsers rest).map fun others => (name, parser) :: others := by
            rw [buildParsers, built]
            cases buildParsers rest <;> rfl
          rw [first, List.find?_cons_of_neg (by simp [empty]), ← ih]
          cases buildParsers rest <;> simp [Except.map]

/-- A definition with an output has one of the mode that it requires. -/
theorem output?_of_hasOutput (output : definition.HasOutput) :
    ∃ made, output? definition = .ok made ∧ made.mode? = definition.requiredMode? := by
  rw [output?, CaseDefinition.requiredMode?]
  cases keeps : definition.keepsMessage with
  | true => exact ⟨.kept, rfl, rfl⟩
  | false =>
      cases given : definition.message with
      | none =>
          rcases output with kept | present
          · exact absurd (kept.symm.trans keeps) (by decide)
          · exact absurd given present
      | some template => exact ⟨.template template, rfl, rfl⟩

/-- A definition without a name is refused for it, whatever else it lacks. -/
theorem compile_of_nameless (nameless : definition.name = "") :
    compile definition = .error (.missingProperty .name) := by
  simp [compile, nameless, throw, throwThe, MonadExceptOf.throw, Bind.bind, Except.bind]

/-- Compiling a definition that has a name, phase by phase. -/
theorem compile_of_named (named : definition.name ≠ "") :
    compile definition = do
      let output ← output? definition
      let condition ← match Condition.compile? definition.condition with
        | some condition => .ok condition
        | none => .error (.invalidPattern definition.name)
      let parsers ← buildParsers definition.parsers.entries
      checkMode definition.name output (instructions definition output)
      return {
        name := definition.name
        condition := condition
        output := output
        parsers := ⟨parsers⟩
        plan := (instructions definition output).plan ⟨parsers⟩ definition.name
        origin := definition.origin } := by
  have filled : definition.name.isEmpty = false := by simpa using named
  simp only [compile, filled, ParseDefinition.buildPlan_eq]
  rfl

theorem exists_compile? (compiles : definition.condition.Compiles) :
    ∃ condition, Condition.compile? definition.condition = some condition :=
  Option.ne_none_iff_exists'.mp (mt (Condition.compile?_eq_none_iff _).mp (not_not_intro compiles))

/-- The parsers of a case are built if none is given by an empty table. -/
theorem exists_buildParsers (filled : definition.emptyTable? = none) :
    ∃ parsers, buildParsers definition.parsers.entries = .ok parsers := by
  cases built : buildParsers definition.parsers.entries with
  | ok parsers => exact ⟨parsers, rfl⟩
  | error error =>
      obtain ⟨key, first, -⟩ := (buildParsers_eq_error_iff _ error).mp built
      cases filled.symm.trans first

/-- Instructions have their own mode, and without any the output decides. -/
theorem mode_instructions (definition : CaseDefinition) (output : Output) :
    (instructions definition output).mode =
      match definition.parse with
      | some parse => parse.mode
      | none => output.mode?.getD .positional := by
  rw [instructions]
  cases definition.parse with
  | some parse => rfl
  | none => exact ParseDefinition.mode_empty _

/-- A definition is refused for the first requirement that it violates. -/
theorem compile_of_refused {error : Error} (refused : definition.Refused error) :
    compile definition = .error error := by
  cases refused with
  | name nameless => exact compile_of_nameless nameless
  | message named replaces missing =>
      rw [compile_of_named named, output?, replaces, missing]
      rfl
  | condition named output large =>
      obtain ⟨made, outputs, -⟩ := output?_of_hasOutput output
      rw [compile_of_named named, outputs, (Condition.compile?_eq_none_iff _).mpr large]
      rfl
  | table named output condition first =>
      obtain ⟨made, outputs, -⟩ := output?_of_hasOutput output
      obtain ⟨compiled, compiles⟩ := exists_compile? condition
      rw [compile_of_named named, outputs, compiles,
        (buildParsers_eq_error_iff _ _).mpr ⟨_, first, rfl⟩]
      rfl
  | mode named output condition tables requires given apart =>
      obtain ⟨made, outputs, required⟩ := output?_of_hasOutput output
      obtain ⟨compiled, compiles⟩ := exists_compile? condition
      obtain ⟨parsers, built⟩ := exists_buildParsers tables
      rw [requires] at required
      have declared := mode_instructions definition made
      rw [given] at declared
      rw [compile_of_named named, outputs, compiles, built]
      simp only [Bind.bind, Except.bind, checkMode, required, declared, apart, ↓reduceIte]

/-- A definition that meets all requirements compiles. -/
theorem compile_of_accepted (accepted : definition.Accepted) :
    ∃ compiled, compile definition = .ok compiled := by
  obtain ⟨made, outputs, required⟩ := output?_of_hasOutput accepted.output
  obtain ⟨compiled, compiles⟩ := exists_compile? accepted.condition
  obtain ⟨parsers, built⟩ :=
    exists_buildParsers ((definition.emptyTable?_eq_none_iff).mpr accepted.tables)
  have checked : checkMode definition.name made (instructions definition made) = .ok () := by
    rw [checkMode, mode_instructions, required]
    cases requires : definition.requiredMode? with
    | none => rfl
    | some mode =>
        cases given : definition.parse with
        | none => exact if_pos rfl
        | some parse => exact if_pos (accepted.modes mode requires parse given)
  rw [compile_of_named accepted.named, outputs, compiles, built]
  exact ⟨_, by simp only [Bind.bind, Except.bind, checked]; rfl⟩

end Case

/-- A definition either meets all requirements, or there is a first one that it does not meet. -/
theorem CaseDefinition.accepted_or_refused (definition : CaseDefinition) :
    definition.Accepted ∨ ∃ error, definition.Refused error := by
  by_cases named : definition.name = ""
  · exact Or.inr ⟨_, .name named⟩
  by_cases output : definition.HasOutput
  swap
  · rw [HasOutput, not_or, not_ne_iff, Bool.not_eq_true] at output
    exact Or.inr ⟨_, .message named output.1 output.2⟩
  by_cases condition : definition.condition.Compiles
  swap
  · exact Or.inr ⟨_, .condition named output condition⟩
  cases tables : definition.emptyTable? with
  | some key => exact Or.inr ⟨_, .table named output condition tables⟩
  | none =>
      by_cases modes : ∀ mode, definition.requiredMode? = some mode →
          ∀ parse, definition.parse = some parse → mode = parse.mode
      · exact Or.inl ⟨named, output, condition, definition.emptyTable?_eq_none_iff.mp tables, modes⟩
      · push Not at modes
        obtain ⟨mode, requires, parse, given, apart⟩ := modes
        exact Or.inr ⟨_, .mode named output condition tables requires given apart⟩

namespace Case

/-- The error of a definition is the first requirement that it violates. -/
theorem compile_eq_error_iff_refused (definition : CaseDefinition) (error : Error) :
    compile definition = .error error ↔ definition.Refused error := by
  constructor
  · intro failed
    rcases definition.accepted_or_refused with accepted | ⟨own, refused⟩
    · obtain ⟨compiled, compiles⟩ := compile_of_accepted accepted
      cases compiles.symm.trans failed
    · cases (compile_of_refused refused).symm.trans failed
      exact refused
  · exact compile_of_refused

/-- Exactly the definitions that meet all requirements compile. -/
theorem exists_compile_eq_ok_iff (definition : CaseDefinition) :
    (∃ compiled, compile definition = .ok compiled) ↔ definition.Accepted := by
  constructor
  · rintro ⟨compiled, compiles⟩
    rcases definition.accepted_or_refused with accepted | ⟨error, refused⟩
    · exact accepted
    · cases compiles.symm.trans (compile_of_refused refused)
  · exact compile_of_accepted

/-- A case has the mode of its instructions, and without any that of its output. -/
theorem mode_of_compile {definition : CaseDefinition} {compiled : Case}
    (compiles : compile definition = .ok compiled) :
    compiled.mode =
      match definition.parse with
      | some parse => parse.mode
      | none => definition.requiredMode?.getD .positional := by
  obtain ⟨-, output, condition, parsers, outputs, -, -, -, rfl⟩ :=
    (compile_eq_ok_iff definition compiled).mp compiles
  have accepted := (exists_compile_eq_ok_iff definition).mp ⟨_, compiles⟩
  obtain ⟨made, same, required⟩ := output?_of_hasOutput accepted.output
  cases outputs.symm.trans same
  rw [← required]
  exact (ParseDefinition.mode_plan _ _ _).trans (mode_instructions definition output)

/-- Instructions are refused for nothing but their mode. -/
theorem refused_of_mode {definition : CaseDefinition} {parse other : ParseDefinition}
    (same : parse.mode = other.mode) {error : Error}
    (refused : { definition with parse := some parse }.Refused error) :
    { definition with parse := some other }.Refused error := by
  cases refused with
  | name nameless => exact .name nameless
  | message named replaces missing => exact .message named replaces missing
  | condition named output large => exact .condition named output large
  | table named output condition first => exact .table named output condition first
  | mode named output condition tables requires given apart =>
      cases given
      rw [same] at apart ⊢
      exact .mode named output condition tables requires rfl apart

/-- **Which definitions compile.** A definition compiles exactly if it has a name, a template or the
wish to keep messages, a condition that is not too large, no empty table among its own parsers, and
instructions, if it gives any, of the mode that its template requires, if it is used and requires
one. Otherwise the error is that of the first requirement that is not met. The mode of the case is
that of the instructions; without any it is the one that the template requires, else positional.
Instructions of one mode are exchangeable, and building them is never refused. If own parsers are
given one after the other, the last source under a name counts, at the place of the first one. -/
theorem compile_eq_error_iff (definition : CaseDefinition) :
    ((∃ compiled, compile definition = .ok compiled) ↔ definition.Accepted) ∧
    (∀ error, compile definition = .error error ↔ definition.Refused error) ∧
    (∀ compiled, compile definition = .ok compiled →
      (∀ parse, definition.parse = some parse → compiled.mode = parse.mode) ∧
      (definition.parse = none →
        compiled.mode = definition.requiredMode?.getD .positional)) ∧
    (∀ (parse other : ParseDefinition) (error : Error), parse.mode = other.mode →
      (compile { definition with parse := some parse } = .error error ↔
        compile { definition with parse := some other } = .error error)) ∧
    (∀ (parse : ParseDefinition) (locals : Register ValueParser),
      parse.buildPlan locals definition.name = .ok (parse.plan locals definition.name)) ∧
    (∀ (given : List (String × ParserSource)) (key : String),
      definition.parsers = Register.empty →
      (compile (definition.withParsers given) = .error (.emptyLookupTable key) ↔
        definition.name ≠ "" ∧ definition.HasOutput ∧ definition.condition.Compiles ∧
        (given.map (·.1)).eraseDups.find? (fun name =>
          (Register.findEntry? name given.reverse).any ParserSource.isEmptyTable) =
            some key)) := by
  refine ⟨exists_compile_eq_ok_iff definition, compile_eq_error_iff_refused definition, ?_, ?_,
    fun parse locals => parse.buildPlan_eq locals definition.name, ?_⟩
  · intro compiled compiles
    have mode := mode_of_compile compiles
    constructor
    · intro parse given
      rwa [given] at mode
    · intro omitted
      rwa [omitted] at mode
  · intro parse other error same
    rw [compile_eq_error_iff_refused, compile_eq_error_iff_refused]
    exact ⟨refused_of_mode same, refused_of_mode same.symm⟩
  · intro given key bare
    rw [compile_eq_error_iff_refused, ← CaseDefinition.emptyTable?_withParsers bare]
    constructor
    · intro refused
      rw [CaseDefinition.withParsers_eq] at refused ⊢
      cases refused with
      | table named output condition first => exact ⟨named, output, condition, first⟩
    · rintro ⟨named, output, condition, first⟩
      rw [CaseDefinition.withParsers_eq] at first ⊢
      exact .table named output condition first

/-- A definition with named instructions, which refer to a parser that does not exist. -/
def stray (name : String) (template : Template) : CaseDefinition where
  name := name
  condition := .literal "x"
  message := some template
  parse := some (.named ⟨[("g", .chain [.reference "nowhere", .chain [.function id]])]⟩)

/-- An empty table that is replaced does no harm, one that replaces another source does, at its
place. The mode of the template counts last, whichever of the two it is. -/
theorem compile_eq_error_iff_stray :
    (∃ compiled, compile ((stray "a" (.named fun _ => "m")).withParsers
        [("p", .table Register.empty), ("p", .function id)]) = .ok compiled ∧
      compiled.mode = .named) ∧
    compile (stray "" (.fixed "m")) = .error (.missingProperty .name) ∧
    compile ((stray "a" (.positional fun _ => "m")).withParsers
      [("p", .function id), ("q", .table Register.empty), ("p", .table Register.empty)]) =
        .error (.emptyLookupTable "p") ∧
    compile (stray "a" (.positional fun _ => "m")) =
      .error (.templateModeMismatch "a" .positional .named) ∧
    compile { stray "a" (.positional fun _ => "m") with parse := some (.named Register.empty) } =
      .error (.templateModeMismatch "a" .positional .named) ∧
    compile { stray "a" (.named fun _ => "m") with
      parse := some (.positional [.chain [.reference "nowhere"]]) } =
        .error (.templateModeMismatch "a" .named .positional) := by
  have small : ConditionSpec.Compiles (.literal "x") := by
    rw [ConditionSpec.Compiles]
    decide +kernel
  have clash : ∀ template required (parse : ParseDefinition), template.mode? = some required →
      required ≠ parse.mode → { stray "a" template with parse := some parse }.Refused
        (.templateModeMismatch "a" required parse.mode) := by
    intro template required parse requires apart
    have named : "a" ≠ "" := by decide
    exact .mode named (Or.inr (Option.some_ne_none _)) small rfl requires rfl apart
  have mismatch : (stray "a" (.positional fun _ => "m")).Refused
      (.templateModeMismatch "a" .positional .named) :=
    clash (.positional fun _ => "m") .positional _ rfl (by decide)
  refine ⟨?_, ?_, ?_, ?_, ?_, ?_⟩
  · obtain ⟨accepts, -, mode, -⟩ := compile_eq_error_iff
      ((stray "a" (.named fun _ => "m")).withParsers
        [("p", .table Register.empty), ("p", .function id)])
    obtain ⟨compiled, compiles⟩ := accepts.mpr
      { named := by decide
        output := Or.inr (Option.some_ne_none _)
        condition := small
        tables := by
          intro entry member
          cases List.mem_singleton.mp member
          rfl
        modes := by
          intro mode requires parse given
          cases requires
          cases given
          rfl }
    exact ⟨compiled, compiles, (mode compiled compiles).1 _ rfl⟩
  · exact ((compile_eq_error_iff _).2.1 _).mpr (.name rfl)
  · obtain ⟨-, -, -, -, -, given⟩ := compile_eq_error_iff (stray "a" (.positional fun _ => "m"))
    exact (given _ _ rfl).mpr ⟨by decide, Or.inr (Option.some_ne_none _), small, rfl⟩
  · exact ((compile_eq_error_iff _).2.1 _).mpr mismatch
  · obtain ⟨-, refuses, -, exchange, -⟩ :=
      compile_eq_error_iff (stray "a" (.positional fun _ => "m"))
    exact (exchange _ _ _ rfl).mp ((refuses _).mpr mismatch)
  · refine ((compile_eq_error_iff _).2.1 _).mpr ?_
    exact clash (.named fun _ => "m") .named (.positional [.chain [.reference "nowhere"]]) rfl
      (by decide)

end Case

end ErrorCatalog
