import Mathlib.Data.List.Forall2
import Mathlib.Logic.Relation
import ErrorCatalog.Proofs.Case.References
import ErrorCatalog.Proofs.Case.Values

/-!
# What a case sees of the scopes

A name in an instruction is deferred when the case has no parser of its own under
it. Following an instruction only looks up its deferred names in the scopes
(`Instruction.interpret_congr`), so scopes with the same parsers under these names
make the same of every message (`Case.parse_eq_of_deferredNames`).

Parsers of other names come and go without effect (`Scope.Edits`), among them all
names that the case declares itself. What a case holds it keeps, but a parser that
it holds may also be referred to by a deferred name, and then it is still looked
up: `Case.parse_of_removed_aliased`.
-/

namespace ErrorCatalog

open Pattern (Participant)

namespace Instruction

/-- Two ways to find parsers, behind the own parsers of a case, lead to the same ones under some
names. -/
def AgreeOn (locals : Register ValueParser) (left right : String → Option ValueParser)
    (names : List String) : Prop :=
  ∀ name ∈ names, (locals.find? name).or (left name) = (locals.find? name).or (right name)

variable {locals : Register ValueParser} {left right : String → Option ValueParser}

theorem agreeOn_append_iff (first second : List String) :
    AgreeOn locals left right (first ++ second) ↔
      AgreeOn locals left right first ∧ AgreeOn locals left right second :=
  List.forall_mem_append

mutual

/-- An instruction reads what its references lead to, and nothing else. -/
theorem interpret_congr : ∀ {instruction : Instruction},
    AgreeOn locals left right instruction.references →
    ∀ value, instruction.interpret locals left value = instruction.interpret locals right value
  | .function apply, _, value => by rw [interpret, interpret]
  | .parser built, _, value => by rw [interpret, interpret]
  | .reference name, agree, value => by
      have own : name ∈ (Instruction.reference name).references := by simp [references]
      rw [interpret, interpret, agree name own]
  | .chain items, agree, value => by
      rw [references] at agree
      rw [interpret, interpret]
      exact interpretAll_congr agree value

theorem interpretAll_congr : ∀ {items : List Instruction},
    AgreeOn locals left right (allReferences items) →
    ∀ value, interpretAll locals left items value = interpretAll locals right items value
  | [], _, value => by rw [interpretAll, interpretAll]
  | item :: rest, agree, value => by
      rw [allReferences, agreeOn_append_iff] at agree
      obtain ⟨first, others⟩ := agree
      rw [interpretAll, interpretAll, interpret_congr first value]
      cases item.interpret locals right value with
      | ok next => exact interpretAll_congr others next
      | error name => rfl

end

end Instruction

/-- The names that parse instructions refer to. -/
def ParseDefinition.references (parse : ParseDefinition) : List String :=
  parse.instructions.flatMap Instruction.references

/-- A name in the instruction for a parameter is one of the whole definition. -/
theorem ParseDefinition.mem_references_of_find? {parse : ParseDefinition}
    {key : Template.ArgumentKey} {instruction : Instruction}
    (found : parse.find? key = some instruction) {name : String}
    (refers : name ∈ instruction.references) : name ∈ parse.references := by
  refine List.mem_flatMap.mpr ⟨instruction, ?_, refers⟩
  cases parse with
  | positional instructions =>
      cases key with
      | index index => exact List.mem_of_getElem? found
      | name own => cases found
  | named instructions =>
      cases key with
      | index index => cases found
      | name own => exact Register.mem_values_of_find? found

/-- The names that the instructions of a case refer to and under which it has no parser. -/
def CaseDefinition.deferredNames (definition : CaseDefinition) : List String :=
  ((definition.parse.map ParseDefinition.references).getD []).filter fun name =>
    !definition.parsers.contains name

/-- A name that the case has a parser for is not deferred. -/
theorem CaseDefinition.notMem_deferredNames_of_declared {definition : CaseDefinition}
    {name : String} (declared : definition.parsers.contains name = true) :
    name ∉ definition.deferredNames := by
  intro deferred
  have free := (List.mem_filter.mp deferred).2
  rw [declared] at free
  cases free

namespace Case

variable {definition : CaseDefinition} {compiled : Case} {left right : List Scope}

/-- The instructions of a case refer to the names in its definition, whatever its output. -/
theorem references_instructions (definition : CaseDefinition) (output : Output) :
    (instructions definition output).references =
      (definition.parse.map ParseDefinition.references).getD [] := by
  unfold instructions
  cases definition.parse with
  | some parse => rfl
  | none => cases output.mode?.getD .positional <;> rfl

section Congruence

variable (compiles : compile definition = .ok compiled)
  (same : ∀ name ∈ definition.deferredNames,
    Scope.resolve? left name = Scope.resolve? right name)

include compiles same

/-- A reference leads to the own parser of the case, or it is deferred. -/
theorem agreeOn_references : Instruction.AgreeOn compiled.parsers (Scope.resolve? left)
    (Scope.resolve? right) (instructions definition compiled.output).references := by
  intro name refers
  have own := contains_of_compile compiles name
  cases declared : compiled.parsers.find? name with
  | some parser => rfl
  | none =>
      rw [declared] at own
      have deferred : name ∈ definition.deferredNames := by
        rw [references_instructions] at refers
        exact List.mem_filter.mpr ⟨refers, by rw [← own]; rfl⟩
      rw [Option.none_or, Option.none_or, same name deferred]

/-- An instruction is followed alike in scopes that agree on the deferred names. -/
theorem follow_congr (key : Template.ArgumentKey) (value : Value) :
    compiled.follow left ((instructions definition compiled.output).find? key) value =
      compiled.follow right ((instructions definition compiled.output).find? key) value := by
  cases found : (instructions definition compiled.output).find? key with
  | none => rfl
  | some instruction =>
      have agree : Instruction.AgreeOn compiled.parsers (Scope.resolve? left)
          (Scope.resolve? right) instruction.references := by
        intro name refers
        have listed := ParseDefinition.mem_references_of_find? found refers
        exact agreeOn_references compiles same name listed
      have made := Instruction.interpret_congr agree value
      simp only [follow, made]

/-- A case has the same parameters in scopes that agree on its deferred names. -/
theorem params_congr {participants : List Participant} {extraction : Extraction}
    (classified : Extraction.Classified participants extraction) :
    compiled.params left extraction = compiled.params right extraction := by
  rcases Participant.modes_cases participants compiled.mode with
    ⟨named, unnamed⟩ | ⟨some, captured, opposite, all⟩ | declared
  · rw [params_of_mixed classified named unnamed, params_of_mixed classified named unnamed]
  · rw [params_of_opposite classified some all opposite,
      params_of_opposite classified some all opposite]
  · have values : compiled.valueOf left (instructions definition compiled.output) =
        compiled.valueOf right (instructions definition compiled.output) :=
      funext fun placed => follow_congr compiles same (placed.1.key placed.2) _
    rw [params_of_declared classified compiles declared,
      params_of_declared classified compiles declared, valuesFrom, valuesFrom, values]

/-- A case makes the same of a message in scopes that agree on its deferred names. -/
theorem parse_eq_of_deferredNames (message : String) (context : Option Fields) :
    compiled.parse message left context = compiled.parse message right context := by
  unfold parse
  cases compiled.output with
  | kept => rfl
  | template template =>
      cases extracted : compiled.condition.extract? message with
      | none => rfl
      | some extraction =>
          obtain ⟨-, participants, -, classified⟩ := Condition.exists_classified extracted
          simp only [params_congr compiles same classified]

end Congruence

end Case

/-! ## Edits of scopes -/

namespace Scope

/-- One step that registers or removes a parser under one of some names. To replace a parser is to
remove it and then to register another one. -/
inductive Edits (names : String → Prop) : Scope → Scope → Prop
  | register {scope next : Scope} {parser : ValueParser} (listed : names parser.name)
      (accepted : scope.addParser parser = .ok next) : Edits names scope next
  | remove {scope next : Scope} {name : String} {parser : ValueParser} (listed : names name)
      (accepted : scope.removeParser name = .ok (parser, next)) : Edits names scope next

/-- One edit leaves the parsers of other names. -/
theorem Edits.findParser?_eq {names : String → Prop} {scope next : Scope}
    (edits : Edits names scope next) {query : String} (other : ¬ names query) :
    next.findParser? query = scope.findParser? query := by
  cases edits with
  | @register parser listed accepted =>
      have apart : parser.name ≠ query := by
        rintro rfl
        exact other listed
      unfold addParser at accepted
      split at accepted
      · cases accepted
      · cases accepted
        exact (Register.find?_insert _ _ _ _).trans (if_neg apart)
  | @remove name parser listed accepted =>
      have apart : query ≠ name := by
        rintro rfl
        exact other listed
      unfold removeParser at accepted
      split at accepted
      · cases accepted
        exact Register.find?_erase_of_ne _ apart
      · cases accepted

/-- Edits in turn leave the parsers of other names. -/
theorem findParser?_of_edits {names : String → Prop} {scope next : Scope}
    (edited : Relation.ReflTransGen (Edits names) scope next) {query : String}
    (other : ¬ names query) : next.findParser? query = scope.findParser? query := by
  induction edited with
  | refl => rfl
  | tail _ last ih => exact (last.findParser?_eq other).trans ih

/-- A name that no edit is about leads to the same parser in the edited scopes. -/
theorem resolve?_of_edits {names : String → Prop} {scopes others : List Scope}
    (edited : List.Forall₂ (Relation.ReflTransGen (Edits names)) scopes others) {query : String}
    (other : ¬ names query) : resolve? others query = resolve? scopes query := by
  induction edited with
  | nil => rfl
  | cons first _ ih =>
      have found := findParser?_of_edits first other
      unfold resolve? at ih ⊢
      rw [List.findSome?_cons, List.findSome?_cons, found, ih]

end Scope

namespace Case

/-- Parsers under names that are not deferred may come and go. -/
theorem parse_of_edits {definition : CaseDefinition} {compiled : Case}
    (compiles : compile definition = .ok compiled) (message : String) (context : Option Fields)
    {names : String → Prop} (free : ∀ name, names name → name ∉ definition.deferredNames)
    {scopes others : List Scope}
    (edited : List.Forall₂ (Relation.ReflTransGen (Scope.Edits names)) scopes others) :
    compiled.parse message others context = compiled.parse message scopes context := by
  refine parse_eq_of_deferredNames compiles ?_ message context
  intro name deferred
  refine Scope.resolve?_of_edits edited ?_
  intro listed
  exact free name listed deferred

/-- **A case sees the scopes only through its deferred names.** Let a definition compile. Two lists
of scopes in which the same parser, or none, is found first under each deferred name give the same
outcome on every message, a report or an error, with every context. So nothing changes when parsers
under names that the case declares are registered, removed or replaced in any of the scopes; nor
when scopes lose a parser that the case itself holds, unless the name of this parser is deferred;
and without deferred names any two lists of scopes give the same outcome. -/
theorem parse_of_deferredNames (definition : CaseDefinition) (compiled : Case)
    (compiles : compile definition = .ok compiled) (message : String) (context : Option Fields) :
    (∀ left right : List Scope,
      (∀ name ∈ definition.deferredNames,
        Scope.resolve? left name = Scope.resolve? right name) →
      compiled.parse message left context = compiled.parse message right context) ∧
    (∀ scopes others : List Scope,
      List.Forall₂ (Relation.ReflTransGen
        (Scope.Edits fun name => definition.parsers.contains name = true)) scopes others →
      compiled.parse message others context = compiled.parse message scopes context) ∧
    (∀ held ∈ compiled.held, held.name ∉ definition.deferredNames →
      ∀ scopes others : List Scope,
      List.Forall₂ (fun scope next =>
        next = scope ∨ scope.removeParser held.name = .ok (held, next)) scopes others →
      compiled.parse message others context = compiled.parse message scopes context) ∧
    (definition.deferredNames = [] → ∀ left right : List Scope,
      compiled.parse message left context = compiled.parse message right context) := by
  refine ⟨?_, ?_, ?_, ?_⟩
  · intro left right same
    exact parse_eq_of_deferredNames compiles same message context
  · intro scopes others edited
    refine parse_of_edits compiles message context ?_ edited
    intro name declared
    exact CaseDefinition.notMem_deferredNames_of_declared declared
  · intro held _ free scopes others removed
    have lost : ∀ name, name = held.name → name ∉ definition.deferredNames := by
      rintro _ rfl
      exact free
    refine parse_of_edits compiles message context lost (removed.imp ?_)
    rintro scope next (rfl | gone)
    · exact .refl
    · exact .single (.remove rfl gone)
  · intro none left right
    refine parse_eq_of_deferredNames compiles ?_ message context
    rw [none]
    exact fun name deferred => absurd deferred List.not_mem_nil

/-- A parser that is registered under its own name, and given to a case under another one. -/
def shared : ValueParser := ValueParser.ofFunction "p" fun value => .array [value]

def spare : ValueParser := ValueParser.ofFunction "q" id

/-- A case that holds both parsers and also refers to the first one by the name that it has in
scopes. -/
def aliased : CaseDefinition where
  name := "aliased"
  condition := .pattern Pattern.eitherKind
  message := some (.fixed "m")
  parsers := ⟨[("own", .parser shared), ("other", .parser spare)]⟩
  parse := some (.positional [.chain [.reference "own", .reference "other", .reference "p"]])

def lending : Scope where
  name := "lending"
  parsers := ⟨[("p", shared), ("q", spare)]⟩

/-- The same scope after it has lost the first one. -/
def lacking : Scope := { lending with parsers := ⟨[("q", spare)]⟩ }

/-- A case that holds a parser can fail without it in the scopes, if it refers to it by name too:
what it holds stands under a name of its own, and other names are looked up when a message
matches. -/
theorem parse_of_removed_aliased :
    ∃ compiled, compile aliased = .ok compiled ∧ shared ∈ compiled.held ∧
      lending.removeParser shared.name = .ok (shared, lacking) ∧
      compiled.parse "yz" [lending] none =
        .ok (some ⟨"m", .positional [.array [.array [.string "y"]], .string "z"], []⟩) ∧
      compiled.parse "yz" [lacking] none = .error (.unresolvedParser "p" "aliased") := by
  have extracted : Condition.extract? ⟨Pattern.eitherKind⟩ "yz" = some (.positional ["y", "z"]) :=
    (Condition.extract?_eq_some_iff Pattern.participants?_eitherKind.2 _).mpr
      (.positional (by decide))
  refine ⟨_, rfl, List.mem_cons_self, rfl, ?_, ?_⟩
  · simp only [parse]
    rw [extracted]
    rfl
  · simp only [parse]
    rw [extracted]
    rfl

/-- A parser under a name that the case declares. -/
def hidden : ValueParser := ValueParser.ofFunction "own" fun _ => .null

/-- A scope that comes first gets a parser under a name of the case, the next one loses the second
parser, and a case that refers to no other names does not need either of them. -/
theorem parse_of_deferredNames_aliased :
    ∃ compiled plain, compile aliased = .ok compiled ∧
      compile { aliased with parse := none } = .ok plain ∧
      (∀ message context, compiled.parse message [Scope.new "first", lending] context =
        compiled.parse message [lending] context) ∧
      (∀ message context,
        compiled.parse message [{ name := "first", parsers := ⟨[("own", hidden)]⟩ }, lending]
            context =
          compiled.parse message [Scope.new "first", lending] context) ∧
      (∀ message context,
        compiled.parse message [{ lending with parsers := ⟨[("p", shared)]⟩ }] context =
          compiled.parse message [lending] context) ∧
      ∀ message context,
        plain.parse message [lending] context = plain.parse message [] context := by
  refine ⟨_, _, rfl, rfl, ?_, ?_, ?_, ?_⟩
  · intro message context
    refine (parse_of_deferredNames aliased _ rfl message context).1 _ _ ?_
    intro name deferred
    rfl
  · intro message context
    refine (parse_of_deferredNames aliased _ rfl message context).2.1 _ _ ?_
    refine .cons (.single ?_) (.cons .refl .nil)
    exact @Scope.Edits.register _ (Scope.new "first") _ hidden rfl rfl
  · intro message context
    have member : spare ∈ [shared, spare, shared, spare] := by simp
    refine (parse_of_deferredNames aliased _ rfl message context).2.2.1 spare member ?_ _ _ ?_
    · decide
    · exact .cons (Or.inr rfl) .nil
  · intro message context
    exact (parse_of_deferredNames { aliased with parse := none } _ rfl message context).2.2.2 rfl
      _ _

end Case

end ErrorCatalog
