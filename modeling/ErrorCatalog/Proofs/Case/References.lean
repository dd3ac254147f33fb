import ErrorCatalog.Proofs.Case.Interpretation

/-!
# References of instructions

Following an instruction can only fail at a reference: functions and parsers
make something of every value. It fails at the first reference, from left to
right, that leads to no parser (`Instruction.interpret_eq_error_iff`), and this
is one that neither the case nor a visible scope has
(`Case.follow_eq_error_iff`).
-/

namespace ErrorCatalog

namespace Instruction

mutual

/-- The names that an instruction refers to, from left to right. -/
def references : Instruction → List String
  | .function _ => []
  | .parser _ => []
  | .reference name => [name]
  | .chain items => allReferences items

/-- The names that the items of a chain refer to. -/
def allReferences : List Instruction → List String
  | [] => []
  | item :: rest => item.references ++ allReferences rest

end

variable (locals : Register ValueParser) (resolve : String → Option ValueParser)

/-- Whether a name leads to no parser. -/
def leadsNowhere (name : String) : Bool := ((locals.find? name).or (resolve name)).isNone

mutual

/-- An instruction fails on a value with its first reference that leads nowhere. -/
theorem interpret_eq_error_iff : ∀ (instruction : Instruction) (value : Value) (name : String),
    instruction.interpret locals resolve value = .error name ↔
      instruction.references.find? (leadsNowhere locals resolve) = some name
  | .function apply, value, name => by simp [interpret, references]
  | .parser built, value, name => by simp [interpret, references]
  | .reference own, value, name => by
      rw [interpret, references, List.find?_singleton, leadsNowhere]
      cases (locals.find? own).or (resolve own) <;> simp
  | .chain items, value, name => by
      rw [interpret, references]
      exact interpretAll_eq_error_iff items value name

theorem interpretAll_eq_error_iff : ∀ (items : List Instruction) (value : Value) (name : String),
    interpretAll locals resolve items value = .error name ↔
      (allReferences items).find? (leadsNowhere locals resolve) = some name
  | [], value, name => by simp [interpretAll, allReferences]
  | item :: rest, value, name => by
      have first := interpret_eq_error_iff item value
      rw [interpretAll, allReferences, List.find?_append]
      cases followed : item.interpret locals resolve value with
      | error own =>
          have found := (first own).mp followed
          simp [found]
      | ok next =>
          -- The item would have failed at a reference of its own.
          have none : item.references.find? (leadsNowhere locals resolve) = none := by
            rw [Option.eq_none_iff_forall_ne_some]
            intro own found
            cases followed.symm.trans ((first own).mpr found)
          rw [none, Option.none_or]
          exact interpretAll_eq_error_iff rest next name

end

end Instruction

/-- Whether neither a case has a parser of a name nor a visible scope. -/
def CaseDefinition.isUnknown (definition : CaseDefinition) (scopes : List Scope)
    (name : String) : Bool :=
  !definition.parsers.contains name && !scopes.any fun scope => scope.hasParser name

/-- A name leads to a parser if one of the scopes has it. -/
theorem Scope.resolve?_isSome (scopes : List Scope) (name : String) :
    (resolve? scopes name).isSome = scopes.any fun scope => scope.hasParser name := by
  rw [resolve?, List.isSome_findSome?]
  rfl

namespace Case

variable {definition : CaseDefinition} {compiled : Case}

/-- A compiled case has parsers under the names of its definition. -/
theorem contains_of_compile (compiles : compile definition = .ok compiled) (name : String) :
    (compiled.parsers.find? name).isSome = definition.parsers.contains name := by
  obtain ⟨-, output, condition, parsers, -, -, sources, -, rfl⟩ :=
    (compile_eq_ok_iff definition compiled).mp compiles
  have found := congrArg Option.isSome (findEntry?_buildParsers sources name)
  rw [Option.isSome_map, Option.isSome_map] at found
  exact found.symm

/-- The names that lead nowhere in a compiled case are those unknown to the definition. -/
theorem leadsNowhere_of_compile (compiles : compile definition = .ok compiled)
    (scopes : List Scope) :
    Instruction.leadsNowhere compiled.parsers (Scope.resolve? scopes) =
      definition.isUnknown scopes := by
  funext name
  have own := contains_of_compile compiles name
  have shared := Scope.resolve?_isSome scopes name
  rw [Instruction.leadsNowhere, CaseDefinition.isUnknown, ← own, ← shared]
  cases compiled.parsers.find? name <;> cases Scope.resolve? scopes name <;> rfl

/-- The names that an instruction refers to, if there is an instruction. -/
def referencesOf (instruction : Option Instruction) : List String :=
  (instruction.map Instruction.references).getD []

/-- Following an instruction fails exactly if it refers to an unknown name; the error tells the
first one. -/
theorem follow_eq_error_iff (compiles : compile definition = .ok compiled) (scopes : List Scope)
    (instruction : Option Instruction) (value : Value) (error : Error) :
    compiled.follow scopes instruction value = .error error ↔
      ∃ name, error = .unresolvedParser name compiled.name ∧
        (referencesOf instruction).find? (definition.isUnknown scopes) = some name := by
  cases instruction with
  | none => simp [follow, referencesOf]
  | some instruction =>
      have fails := Instruction.interpret_eq_error_iff compiled.parsers (Scope.resolve? scopes)
        instruction value
      rw [leadsNowhere_of_compile compiles] at fails
      rw [follow, referencesOf, Option.map_some, Option.getD_some]
      simp only [← fails]
      cases instruction.interpret compiled.parsers (Scope.resolve? scopes) value with
      | ok result => simp
      | error name => simp [eq_comm]

end Case

end ErrorCatalog
