import ErrorCatalog.Proofs.Case.Interpretation
import ErrorCatalog.Proofs.Condition.Participants
import ErrorCatalog.Proofs.Results

/-!
# Values of captured texts

A case has one mode, and a message gives parameters of one mode or of both. What
a case makes of the groups that took part in a match depends on their modes
(`Pattern.Participant.modes_cases`): groups of both modes, and groups of the mode
that the case does not have, are errors (`Case.params_of_mixed`,
`Case.params_of_opposite`); otherwise each group gives one parameter, whose value
is what the instruction for it makes of the captured text
(`Case.params_of_declared`).
-/

namespace ErrorCatalog

open Pattern (Participant)

namespace Pattern.Participant

/-- The mode of the parameter of a group. -/
def mode (participant : Participant) : CaptureMode :=
  match participant.name with
  | some _ => .named
  | none => .positional

/-- What tells the parameter of a group apart: the name of the group, or its place among the groups
that took part. -/
def key (participant : Participant) (place : Nat) : Template.ArgumentKey :=
  match participant.name with
  | some name => .name name
  | none => .index place

/-- A participant is named if it has a name. -/
theorem mode_eq_named_iff (participant : Participant) :
    participant.mode = .named ↔ participant.name ≠ none := by
  rw [mode]
  cases participant.name <;> simp

/-- A participant is positional if it has no name. -/
theorem mode_eq_positional_iff (participant : Participant) :
    participant.mode = .positional ↔ participant.name = none := by
  rw [mode]
  cases participant.name <;> simp

/-- Groups have both modes, or all have the mode that is not declared and there are some, or all
have the one that is. -/
theorem modes_cases (participants : List Participant) (declared : CaptureMode) :
    ((∃ group ∈ participants, group.name ≠ none) ∧ ∃ group ∈ participants, group.name = none) ∨
    (participants ≠ [] ∧
      ∃ captured ≠ declared, ∀ group ∈ participants, group.mode = captured) ∨
    ∀ group ∈ participants, group.mode = declared := by
  by_cases same : ∃ mode, ∀ group ∈ participants, group.mode = mode
  · obtain ⟨mode, all⟩ := same
    by_cases fits : mode = declared
    · exact Or.inr (Or.inr (fits ▸ all))
    · by_cases empty : participants = []
      · subst empty
        exact Or.inr (Or.inr nofun)
      · exact Or.inr (Or.inl ⟨empty, mode, fits, all⟩)
  · left
    constructor
    · by_contra unnamed
      push Not at unnamed
      refine same ⟨.positional, fun group member => ?_⟩
      exact (group.mode_eq_positional_iff).mpr (unnamed group member)
    · by_contra named
      push Not at named
      refine same ⟨.named, fun group member => ?_⟩
      exact (group.mode_eq_named_iff).mpr (named group member)

end Pattern.Participant

/-- The instruction for the parameter of a group in its place. -/
def ParseDefinition.instructionFor (parse : ParseDefinition) (placed : Participant × Nat) :
    Option Instruction :=
  parse.find? (placed.1.key placed.2)

/-- Parameters of a mode, with their names as far as the mode has any. -/
def Params.collect (mode : CaptureMode) (names : List String) (values : List Value) : Params :=
  match mode with
  | .positional => .positional values
  | .named => .named ⟨names.zip values⟩

namespace Case

variable {definition : CaseDefinition} {compiled : Case} {scopes : List Scope}

/-- The value of the parameter of a group in its place. -/
def valueOf (compiled : Case) (scopes : List Scope) (parse : ParseDefinition)
    (placed : Participant × Nat) : Except Error Value :=
  compiled.follow scopes (parse.instructionFor placed) (.string placed.1.text)

/-- The values of the parameters of groups, from a place on. -/
def valuesFrom (compiled : Case) (scopes : List Scope) (parse : ParseDefinition) (place : Nat)
    (participants : List Participant) : Except Error (List Value) :=
  (participants.zipIdx place).mapM (compiled.valueOf scopes parse)

/-- Values are computed from left to right, up to the first one that fails. -/
theorem valuesFrom_cons (compiled : Case) (scopes : List Scope) (parse : ParseDefinition)
    (place : Nat) (group : Participant) (rest : List Participant) :
    compiled.valuesFrom scopes parse place (group :: rest) = do
      let value ← compiled.valueOf scopes parse (group, place)
      let values ← compiled.valuesFrom scopes parse (place + 1) rest
      return value :: values := by
  rw [valuesFrom, List.zipIdx_cons, List.mapM_cons]
  rfl

section Values

variable (compiles : compile definition = .ok compiled)

include compiles

/-- The steps for a group make its value. -/
theorem runSteps_eq_valueOf (scopes : List Scope) (group : Participant) (place : Nat) :
    compiled.runSteps scopes (compiled.plan.find? (group.key place)) (.string group.text) =
      compiled.valueOf scopes (instructions definition compiled.output) (group, place) :=
  runSteps_find?_of_compile compiles (group.key place) scopes (.string group.text)

/-- Positional captures get the values of unnamed participants. -/
theorem positionalValues_eq (scopes : List Scope) {steps : List (List Step)}
    (planned : compiled.plan = .positional steps) (place : Nat) {participants : List Participant}
    (unnamed : ∀ group ∈ participants, group.name = none) :
    compiled.positionalValues scopes steps place (participants.map (·.text)) =
      compiled.valuesFrom scopes (instructions definition compiled.output) place
        participants := by
  induction participants generalizing place with
  | nil => rfl
  | cons group rest ih =>
      have others := ih (place + 1) fun other member => unnamed other (List.mem_cons_of_mem _ member)
      have key : group.key place = .index place := by
        rw [Participant.key, unnamed group List.mem_cons_self]
      have first := runSteps_eq_valueOf compiles scopes group place
      rw [planned, key, ParsePlan.find?] at first
      rw [List.map_cons, positionalValues, valuesFrom_cons, first, others]

/-- Named captures get the values of named participants, under their names. -/
theorem namedValues_eq (scopes : List Scope) {steps : Register (List Step)}
    (planned : compiled.plan = .named steps) (place : Nat) {participants : List Participant}
    (named : ∀ group ∈ participants, group.name ≠ none) :
    compiled.namedValues scopes steps (participants.filterMap Participant.entry?) =
      (compiled.valuesFrom scopes (instructions definition compiled.output) place
        participants).map fun values => (participants.filterMap (·.name)).zip values := by
  induction participants generalizing place with
  | nil => rfl
  | cons group rest ih =>
      have others := ih (place + 1) fun other member => named other (List.mem_cons_of_mem _ member)
      have first := runSteps_eq_valueOf compiles scopes group place
      obtain ⟨name, text⟩ := group
      cases name with
      | none => exact absurd rfl (named _ List.mem_cons_self)
      | some name =>
          rw [planned, Participant.key, ParsePlan.find?] at first
          have entries : (⟨some name, text⟩ :: rest : List Participant).filterMap
              Participant.entry? = (name, text) :: rest.filterMap Participant.entry? := rfl
          rw [entries, namedValues, valuesFrom_cons, first, others]
          cases compiled.valueOf scopes (instructions definition compiled.output)
              (⟨some name, text⟩, place) with
          | error error => rfl
          | ok value =>
              cases compiled.valuesFrom scopes (instructions definition compiled.output)
                (place + 1) rest <;> rfl

end Values

/-! ## The parameters of a match -/

/-- A plan is of the mode of its case. -/
theorem plan_cases (compiled : Case) :
    (∃ steps, compiled.plan = .positional steps ∧ compiled.mode = .positional) ∨
    ∃ steps, compiled.plan = .named steps ∧ compiled.mode = .named := by
  rw [Case.mode]
  cases compiled.plan with
  | positional steps => exact Or.inl ⟨steps, rfl, rfl⟩
  | named steps => exact Or.inr ⟨steps, rfl, rfl⟩

section Classified

variable {participants : List Participant} {extraction : Extraction}
  (classified : Extraction.Classified participants extraction)

include classified

/-- Groups of the mode of the case give one parameter each. -/
theorem params_of_declared (compiles : compile definition = .ok compiled)
    (declared : ∀ group ∈ participants, group.mode = compiled.mode) :
    compiled.params scopes extraction =
      (compiled.valuesFrom scopes (instructions definition compiled.output) 0 participants).map
        (Params.collect compiled.mode (participants.filterMap (·.name))) := by
  cases classified with
  | mixed named unnamed =>
      obtain ⟨first, firstListed, named⟩ := named
      obtain ⟨second, secondListed, unnamed⟩ := unnamed
      have clash := (declared first firstListed).trans (declared second secondListed).symm
      rw [(first.mode_eq_named_iff).mpr named, (second.mode_eq_positional_iff).mpr unnamed] at clash
      cases clash
  | named some named =>
      obtain ⟨group, listed⟩ := List.exists_mem_of_ne_nil participants some
      have required := declared group listed
      rw [(group.mode_eq_named_iff).mpr (named group listed)] at required
      rcases compiled.plan_cases with ⟨steps, planned, mode⟩ | ⟨steps, planned, mode⟩
      · cases required.trans mode
      · have values := namedValues_eq compiles scopes planned 0 named
        rw [params, planned, mode]
        simp only [values]
        cases compiled.valuesFrom scopes (instructions definition compiled.output) 0
          participants <;> rfl
  | positional unnamed =>
      cases participants with
      | nil =>
          -- Without groups there are no values, in whichever mode the case has.
          change Except.ok (Params.empty compiled.mode) = .ok (Params.collect compiled.mode [] [])
          cases compiled.mode <;> rfl
      | cons group rest =>
          have required := declared group List.mem_cons_self
          rw [(group.mode_eq_positional_iff).mpr (unnamed group List.mem_cons_self)] at required
          rcases compiled.plan_cases with ⟨steps, planned, mode⟩ | ⟨steps, planned, mode⟩
          · have values := positionalValues_eq compiles scopes planned 0 unnamed
            rw [List.map_cons] at values ⊢
            rw [params, planned, mode]
            · simp only [values]
              cases compiled.valuesFrom scopes (instructions definition compiled.output) 0
                (group :: rest) <;> rfl
            · exact nofun
          · cases required.trans mode

/-- Groups of the other mode do not fit the case. -/
theorem params_of_opposite {captured : CaptureMode} (some : participants ≠ [])
    (all : ∀ group ∈ participants, group.mode = captured) (opposite : captured ≠ compiled.mode) :
    compiled.params scopes extraction =
      .error (.captureModeMismatch compiled.name captured compiled.mode) := by
  rcases compiled.plan_cases with ⟨steps, planned, mode⟩ | ⟨steps, planned, mode⟩
  · cases captured with
    | positional => exact absurd mode.symm opposite
    | named =>
        have named : ∀ group ∈ participants, group.name ≠ none := fun group listed =>
          (group.mode_eq_named_iff).mp (all group listed)
        rw [classified.unique (.named some named), params, planned]
  · cases captured with
    | positional =>
        have unnamed : ∀ group ∈ participants, group.name = none := fun group listed =>
          (group.mode_eq_positional_iff).mp (all group listed)
        obtain ⟨group, rest, rfl⟩ := List.exists_cons_of_ne_nil some
        rw [classified.unique (.positional unnamed), List.map_cons, params, planned]
        exact nofun
    | named => exact absurd mode.symm opposite

/-- Participants with and without a name are refused as mixed. -/
theorem params_of_mixed (named : ∃ group ∈ participants, group.name ≠ none)
    (unnamed : ∃ group ∈ participants, group.name = none) :
    compiled.params scopes extraction = .error (.mixedCaptures compiled.name) := by
  rw [classified.unique (.mixed named unnamed)]
  rfl

end Classified

end Case

end ErrorCatalog
