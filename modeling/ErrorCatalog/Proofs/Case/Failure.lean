import ErrorCatalog.Proofs.Case.References
import ErrorCatalog.Proofs.Case.Values

/-!
# When a case fails on a message

A case that replaces messages can fail on one that its condition matches, for
three reasons, each of which counts only if the ones before it do not: groups of
both modes took part in the match, the groups that took part do not have the
mode of the case, an instruction for one of them refers to an unknown name.
`Case.FailsOn` lists them, and `Case.parse_eq_error_iff` says that there are no
others. Only the groups that took part count.
-/

namespace ErrorCatalog

open Pattern (Participant)

/-- The names that the instructions for groups refer to, from a place on: group by group, and from
left to right in each instruction. -/
def ParseDefinition.referencesFrom (parse : ParseDefinition) (place : Nat)
    (participants : List Participant) : List String :=
  (participants.zipIdx place).flatMap fun placed => Case.referencesOf (parse.instructionFor placed)

namespace Case

variable {definition : CaseDefinition} {compiled : Case} {scopes : List Scope}

/-- Parsing parameters in turn fails with the first unknown name. -/
theorem valuesFrom_eq_error_iff (compiles : compile definition = .ok compiled)
    (scopes : List Scope) (parse : ParseDefinition) (place : Nat)
    (participants : List Participant) (error : Error) :
    compiled.valuesFrom scopes parse place participants = .error error ↔
      ∃ name, error = .unresolvedParser name compiled.name ∧
        (parse.referencesFrom place participants).find? (definition.isUnknown scopes) =
          some name := by
  induction participants generalizing place with
  | nil => simp [valuesFrom, ParseDefinition.referencesFrom, pure, Except.pure]
  | cons group rest ih =>
      have first := follow_eq_error_iff compiles scopes (parse.instructionFor (group, place))
        (.string group.text)
      have references : parse.referencesFrom place (group :: rest) =
          referencesOf (parse.instructionFor (group, place)) ++
            parse.referencesFrom (place + 1) rest := by
        rw [ParseDefinition.referencesFrom, List.zipIdx_cons, List.flatMap_cons]
        rfl
      rw [valuesFrom_cons, references, List.find?_append, valueOf]
      cases followed : compiled.follow scopes (parse.instructionFor (group, place))
          (.string group.text) with
      | error own =>
          obtain ⟨name, rfl, found⟩ := (first own).mp followed
          rw [found, Option.some_or]
          simp [Bind.bind, Except.bind, eq_comm]
      | ok value =>
          have none : (referencesOf (parse.instructionFor (group, place))).find?
              (definition.isUnknown scopes) = none := by
            rw [Option.eq_none_iff_forall_ne_some]
            intro name found
            cases followed.symm.trans ((first _).mpr ⟨name, rfl, found⟩)
          rw [none, Option.none_or, ← ih]
          cases compiled.valuesFrom scopes parse (place + 1) rest <;>
            simp [Bind.bind, Except.bind, pure, Except.pure]

/-- How a case fails on a message that its condition matches, by the groups that took part, and with
which error. -/
inductive FailsOn (definition : CaseDefinition) (compiled : Case) (scopes : List Scope)
    (participants : List Participant) : Error → Prop
  /-- Some groups have names and some have none. -/
  | mixed (named : ∃ group ∈ participants, group.name ≠ none)
      (unnamed : ∃ group ∈ participants, group.name = none) :
      FailsOn definition compiled scopes participants (.mixedCaptures definition.name)
  /-- There are groups, and all of them have the mode that the case does not have. -/
  | opposite {captured : CaptureMode} (some : participants ≠ [])
      (all : ∀ group ∈ participants, group.mode = captured) (opposite : captured ≠ compiled.mode) :
      FailsOn definition compiled scopes participants
        (.captureModeMismatch definition.name captured compiled.mode)
  /-- All groups have the mode of the case, and the first unknown name that the instructions for
  them refer to is given. -/
  | unresolved {name : String} (declared : ∀ group ∈ participants, group.mode = compiled.mode)
      (first : ((instructions definition compiled.output).referencesFrom 0 participants).find?
        (definition.isUnknown scopes) = some name) :
      FailsOn definition compiled scopes participants (.unresolvedParser name definition.name)

/-- The parameters of a match fail as its participants do. -/
theorem params_eq_error_iff (compiles : compile definition = .ok compiled)
    {participants : List Participant} {extraction : Extraction}
    (classified : Extraction.Classified participants extraction) (error : Error) :
    compiled.params scopes extraction = .error error ↔
      FailsOn definition compiled scopes participants error := by
  have name := name_of_compile compiles
  have unresolved := valuesFrom_eq_error_iff compiles scopes
    (instructions definition compiled.output) 0 participants
  constructor
  · intro failed
    rcases Participant.modes_cases participants compiled.mode with
      ⟨named, unnamed⟩ | ⟨some, captured, opposite, all⟩ | declared
    · rw [params_of_mixed classified named unnamed, name] at failed
      cases failed
      exact .mixed named unnamed
    · rw [params_of_opposite classified some all opposite, name] at failed
      cases failed
      exact .opposite some all opposite
    · rw [params_of_declared classified compiles declared] at failed
      obtain ⟨parser, rfl, first⟩ := (unresolved error).mp (eq_error_of_map failed)
      rw [name]
      exact .unresolved declared first
  · intro fails
    cases fails with
    | mixed named unnamed => rw [params_of_mixed classified named unnamed, name]
    | opposite some all opposite => rw [params_of_opposite classified some all opposite, name]
    | unresolved declared first =>
        rw [params_of_declared classified compiles declared,
          (unresolved _).mpr ⟨_, rfl, first⟩, name]
        rfl

/-- A case that replaces messages fails on one exactly if the parameters cannot be parsed. -/
theorem parse_eq_error_of_template {template : Template}
    (replaces : compiled.output = .template template) (message : String)
    (context : Option Fields) (error : Error) :
    compiled.parse message scopes context = .error error ↔
      ∃ extraction, compiled.condition.extract? message = some extraction ∧
        compiled.params scopes extraction = .error error := by
  rw [parse, replaces]
  cases compiled.condition.extract? message with
  | none => simp
  | some extraction =>
      cases read : compiled.params scopes extraction <;>
        simp [Bind.bind, Except.bind, pure, Except.pure, read]

/-- A case that keeps messages never fails. -/
theorem parse_ne_error_of_kept (keeps : compiled.output = .kept) (message : String)
    (scopes : List Scope) (context : Option Fields) (error : Error) :
    compiled.parse message scopes context ≠ .error error := by
  simp only [parse, keeps]
  split <;> exact nofun

/-- **When a case fails on a message.** A compiled case fails on a message exactly if it replaces
messages, its condition matches, and of the groups that took part in the match some have a name
and some have none; or else there are some, and all have the mode that is not the one of the case;
or else an instruction for one of them refers to a name that neither the case nor a visible scope
has a parser of, and the error tells the first such name, group by group and from left to right
in each instruction. Instructions for other groups never make it fail: an unresolved name is
referred to by the instruction of a group that took part. -/
theorem parse_eq_error_iff (definition : CaseDefinition) (compiled : Case)
    (compiles : compile definition = .ok compiled) (message : String) (scopes : List Scope)
    (context : Option Fields) :
    (∀ error, compiled.parse message scopes context = .error error ↔
      definition.keepsMessage = false ∧ compiled.condition.isMatch message = true ∧
      ∃ participants, compiled.condition.pattern.participants? message = some participants ∧
        FailsOn definition compiled scopes participants error) ∧
    (∀ name caseName,
      compiled.parse message scopes context = .error (.unresolvedParser name caseName) →
      ∃ participants, compiled.condition.pattern.participants? message = some participants ∧
        ∃ placed ∈ participants.zipIdx, ∃ instruction,
          (instructions definition compiled.output).instructionFor placed = some instruction ∧
          name ∈ instruction.references) := by
  have fails : ∀ error, compiled.parse message scopes context = .error error ↔
      definition.keepsMessage = false ∧ compiled.condition.isMatch message = true ∧
      ∃ participants, compiled.condition.pattern.participants? message = some participants ∧
        FailsOn definition compiled scopes participants error := by
    intro error
    rcases output_of_compile compiles with ⟨keeps, output⟩ | ⟨replaces, template, -, output⟩
    · have none := compiled.parse_ne_error_of_kept output message scopes context error
      simp [none, keeps]
    · rw [parse_eq_error_of_template output]
      constructor
      · rintro ⟨extraction, extracted, failed⟩
        obtain ⟨matched, participants, took, classified⟩ := Condition.exists_classified extracted
        exact ⟨replaces, matched, participants, took,
          (params_eq_error_iff compiles classified error).mp failed⟩
      · rintro ⟨-, matched, participants, took, fails⟩
        obtain ⟨extraction, extracted⟩ := Option.isSome_iff_exists.mp
          ((compiled.condition.extract?_isSome message).trans matched)
        have classified := (Condition.extract?_eq_some_iff took extraction).mp extracted
        exact ⟨extraction, extracted, (params_eq_error_iff compiles classified error).mpr fails⟩
  refine ⟨fails, ?_⟩
  intro name caseName failed
  obtain ⟨-, -, participants, took, reason⟩ := (fails _).mp failed
  cases reason with
  | unresolved declared first =>
      obtain ⟨placed, listed, refers⟩ := List.mem_flatMap.mp (List.mem_of_find?_eq_some first)
      refine ⟨participants, took, placed, listed, ?_⟩
      rw [referencesOf] at refers
      cases found : (instructions definition compiled.output).instructionFor placed with
      | none =>
          rw [found] at refers
          cases refers
      | some instruction =>
          rw [found] at refers
          exact ⟨instruction, rfl, refers⟩

/-- A positional case for a pattern with groups of both kinds. -/
def eitherParsed : CaseDefinition where
  name := "either"
  condition := .pattern Pattern.eitherKind
  message := some (.fixed "m")
  parsers := ⟨[("own", .function id)]⟩
  parse := some (.positional
    [.chain [.reference "own", .chain [.reference "later"]], .reference "last"])

/-- The named group does not fit the case. Where it takes no part, the first instruction is for the
group after it, and its second reference is unknown. -/
theorem parse_eq_error_iff_eitherParsed :
    ∃ compiled, compile eitherParsed = .ok compiled ∧
      compiled.parse "x" [] none = .error (.captureModeMismatch "either" .named .positional) ∧
      compiled.parse "yz" [] none = .error (.unresolvedParser "later" "either") ∧
      ∃ participants, compiled.condition.pattern.participants? "yz" = some participants ∧
        ∃ placed ∈ participants.zipIdx, ∃ instruction,
          (instructions eitherParsed compiled.output).instructionFor placed = some instruction ∧
          "later" ∈ instruction.references := by
  obtain ⟨named, unnamed⟩ := Pattern.participants?_eitherKind
  have opposite := (parse_eq_error_iff eitherParsed _ rfl "x" [] none).1
    (.captureModeMismatch "either" .named .positional)
  obtain ⟨fails, refers⟩ := parse_eq_error_iff eitherParsed _ rfl "yz" [] none
  have matched := (Pattern.participants?_isSome _ _).symm.trans (congrArg Option.isSome named)
  have matched' := (Pattern.participants?_isSome _ _).symm.trans (congrArg Option.isSome unnamed)
  have failed := (fails (.unresolvedParser "later" "either")).mpr
    ⟨rfl, matched', _, unnamed, .unresolved (by decide +kernel) rfl⟩
  refine ⟨_, rfl, opposite.mpr ⟨rfl, matched, _, named, ?_⟩, failed,
    refers "later" "either" failed⟩
  exact .opposite (by decide) (by decide) (by decide)

end Case

end ErrorCatalog
