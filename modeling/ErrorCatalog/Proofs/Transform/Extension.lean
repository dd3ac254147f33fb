import ErrorCatalog.Proofs.Transform.Agreement

/-!
# More cases and parsers in the global scope

Registrations into the global scope put new cases behind those that there are,
and leave every name with the parser that it had. The global scope is searched
last, unless it is selected itself. So such registrations decide only what was
undecided: a message that no case matched, a global case that was missing, a
parser that was not found.

- `Case.parse_of_widens`: with more parsers to be found, a case makes the same of a
  message, unless it lacked a parser;
- `Catalog.growsTo_register`: a registration into the global scope lets it grow
  and changes nothing else;
- `Catalog.transform_run_of_global`: outcomes stay as they were.
-/

namespace ErrorCatalog

/-- Names that lead somewhere lead to the same in a wider look-up. -/
def Widens {α : Type} (narrow wide : String → Option α) : Prop :=
  ∀ name found, narrow name = some found → wide name = some found

namespace Widens

variable {α : Type} {narrow middle wide : String → Option α}

theorem refl (look : String → Option α) : Widens look look := fun _ _ found => found

theorem trans (first : Widens narrow middle) (second : Widens middle wide) : Widens narrow wide :=
  fun name found there => second name found (first name found there)

/-- A new name in a register hides no other one. -/
theorem insert {register : Register α} {name : String} (value : α)
    (absent : name ∉ register.names) :
    Widens register.find? (register.insert name value).find? := by
  intro query found there
  rw [Register.find?_insert]
  split
  · next same =>
      rw [← same, (register.find?_eq_none_iff name).mpr absent] at there
      cases there
  · exact there

end Widens

/-! ## More parsers -/

/-- Steps do the same with more parsers to be found, unless they lacked one. -/
theorem Step.runAll_of_widens {narrow wide : String → Option ValueParser}
    (wider : Widens narrow wide) (steps : List Step) (value : Value) :
    runAll wide steps value = runAll narrow steps value ∨
      ∃ name, runAll narrow steps value = .error name := by
  induction steps generalizing value with
  | nil => exact Or.inl rfl
  | cons step rest ih =>
      cases step with
      | parser built => exact ih (built.parse value)
      | deferred name =>
          cases found : narrow name with
          | none => exact Or.inr ⟨name, by rw [runAll, run, found]⟩
          | some parser =>
              rw [runAll, runAll, run, run, found, wider name parser found]
              exact ih (parser.parse value)

/-- The error of a parser that cannot be found. -/
def Error.Unresolved (error : Error) : Prop :=
  ∃ parser caseName, error = .unresolvedParser parser caseName

/-- With more parsers to be found a case makes the same of a message, unless it lacked one. -/
theorem Case.parse_of_widens (compiled : Case) {left right : List Scope}
    (wider : Widens (Scope.resolve? left) (Scope.resolve? right)) (message : String)
    (context : Option Fields) :
    Stays Error.Unresolved (compiled.parse message left context)
      (compiled.parse message right context) := by
  refine compiled.parse_stays ?_ message context
  intro steps value
  rw [runSteps, runSteps]
  rcases Step.runAll_of_widens wider (steps.getD []) value with same | ⟨name, failed⟩
  · rw [same]
    exact .refl _
  · rw [failed]
    exact Or.inr ⟨_, ⟨name, compiled.name, rfl⟩, rfl⟩

/-! ## A growing global scope -/

/-- A scope grows: its cases stay in front of the new ones, and all names keep what they lead to. -/
structure Scope.GrowsTo (before after : Scope) : Prop where
  name : after.name = before.name
  order : before.cases.values <+: after.cases.values
  cases : Widens before.findCase? after.findCase?
  parsers : Widens before.findParser? after.findParser?

namespace Scope.GrowsTo

variable {before middle after : Scope}

theorem refl (scope : Scope) : scope.GrowsTo scope where
  name := rfl
  order := List.prefix_rfl
  cases := .refl _
  parsers := .refl _

theorem trans (first : before.GrowsTo middle) (second : middle.GrowsTo after) :
    before.GrowsTo after where
  name := second.name.trans first.name
  order := first.order.trans second.order
  cases := first.cases.trans second.cases
  parsers := first.parsers.trans second.parsers

/-- A scope grows by an item with a free label. -/
theorem append {scope : Scope} {item : Item} (free : scope.holds item.label = false) :
    scope.GrowsTo (scope.append item) := by
  cases item with
  | ofCase value =>
      have absent := Scope.case_notMem_names free
      constructor
      · rfl
      · exact ⟨[value], (Register.values_insert_of_notMem value absent).symm⟩
      · exact .insert value absent
      · exact .refl _
  | ofParser parser =>
      constructor
      · rfl
      · exact List.prefix_rfl
      · exact .refl _
      · exact .insert parser (Scope.parser_notMem_names free)

theorem hasCase (grows : before.GrowsTo after) {name : String}
    (present : before.hasCase name = true) : after.hasCase name = true := by
  obtain ⟨found, there⟩ := Option.isSome_iff_exists.mp present
  exact Option.isSome_iff_exists.mpr ⟨found, grows.cases name found there⟩

end Scope.GrowsTo

namespace Catalog

/-- The global scope of a catalog grows and nothing else changes. -/
structure GrowsTo (before after : Catalog) : Prop where
  settings : after.settings = before.settings
  global : before.global.GrowsTo after.global
  others : ∀ name, name ≠ globalName → after.findScope? name = before.findScope? name

namespace GrowsTo

variable {before middle after : Catalog}

theorem refl (catalog : Catalog) : catalog.GrowsTo catalog where
  settings := rfl
  global := .refl _
  others _ _ := rfl

theorem trans (first : before.GrowsTo middle) (second : middle.GrowsTo after) :
    before.GrowsTo after where
  settings := second.settings.trans first.settings
  global := first.global.trans second.global
  others name other := (second.others name other).trans (first.others name other)

/-- A catalog grows by an item with a free label in the global scope. -/
theorem place {catalog : Catalog} {item : Item}
    (free : (catalog.scopeOrNew globalName).holds item.label = false) :
    catalog.GrowsTo (catalog.place globalName item).2 := by
  rw [place_of_not_holds free]
  constructor
  · exact settings_putScope catalog _ _
  · exact .append free
  · intro name other
    exact findScope?_putScope_of_ne catalog _ other.symm

end GrowsTo

/-- A registration into the global scope lets it grow, or fails and changes nothing. -/
theorem growsTo_register (catalog : Catalog) {registration : Registration}
    (global : registration.target = globalName) :
    catalog.GrowsTo (catalog.register registration).2 := by
  rw [register_eq, global]
  cases registration.build catalog with
  | error error => exact .refl catalog
  | ok item =>
      cases taken : (catalog.scopeOrNew globalName).holds item.label with
      | true => exact (congrArg Prod.snd (place_of_holds taken)).symm ▸ .refl catalog
      | false => exact .place taken

/-- A catalog grows by any registrations into the global scope. -/
theorem growsTo_run (catalog : Catalog) {registrations : List Registration}
    (global : ∀ registration ∈ registrations, registration.target = globalName) :
    catalog.GrowsTo (catalog.run (registrations.map fun registration =>
      .single (.register registration))) := by
  induction registrations generalizing catalog with
  | nil => exact .refl catalog
  | cons first rest ih =>
      exact (catalog.growsTo_register (global first List.mem_cons_self)).trans
        (ih (catalog.register first).2 fun other member =>
          global other (List.mem_cons_of_mem _ member))

/-! ## What is decided stays -/

namespace GrowsTo

variable {before after : Catalog} {selection : Selection}

/-- Requested scopes are as before if the global one is not among them. -/
theorem find?_requested (grows : before.GrowsTo after) (unasked : globalName ∉ selection.scopes)
    {name : String} (member : name ∈ selection.scopes) :
    after.findScope? name = before.findScope? name := by
  refine grows.others name ?_
  rintro rfl
  exact unasked member

/-- The same scope is missing as before. -/
theorem missingScope?_eq (grows : before.GrowsTo after) (unasked : globalName ∉ selection.scopes) :
    after.missingScope? selection = before.missingScope? selection := by
  have present : ∀ name ∈ selection.scopes,
      (!after.hasScope name) = !before.hasScope name := by
    intro name member
    rw [hasScope, hasScope, grows.find?_requested unasked member]
  rw [missingScope?, missingScope?, grows.settings, List.find?_congr present]

/-- Global cases that are named and found are found afterwards, too. -/
theorem missingCase?_eq_none (grows : before.GrowsTo after)
    (found : before.missingCase? selection = none) : after.missingCase? selection = none := by
  rw [missingCase?] at found ⊢
  split at found
  · next asked => rw [if_pos asked]
  · next unasked =>
      rw [if_neg unasked, List.find?_eq_none]
      intro name member
      have present := List.find?_eq_none.mp found name member
      rw [Bool.not_eq_true, Bool.not_eq_false'] at present ⊢
      exact grows.global.hasCase present

/-- The same scopes exist as before. -/
theorem existingScopes_eq (grows : before.GrowsTo after)
    (unasked : globalName ∉ selection.scopes) :
    after.existingScopes selection.scopes = before.existingScopes selection.scopes :=
  List.filterMap_congr fun _ member => grows.find?_requested unasked member

/-- The named cases of the global scope are as before. -/
theorem namedGlobalCases_eq (grows : before.GrowsTo after)
    (found : before.missingCase? selection = none) :
    after.namedGlobalCases selection = before.namedGlobalCases selection := by
  rw [namedGlobalCases, namedGlobalCases]
  split
  · next named =>
      rw [missingCase?, if_neg named.2] at found
      refine List.filterMap_congr fun name member => ?_
      have present := List.find?_eq_none.mp found name member
      rw [Bool.not_eq_true, Bool.not_eq_false'] at present
      obtain ⟨own, there⟩ := Option.isSome_iff_exists.mp present
      exact (grows.global.cases name own there).trans there.symm
  · rfl

/-- New candidates come after those that there were. -/
theorem candidates_prefix (grows : before.GrowsTo after) (unasked : globalName ∉ selection.scopes)
    (found : before.missingCase? selection = none) :
    before.candidates selection <+: after.candidates selection := by
  rw [candidates, candidates, grows.namedGlobalCases_eq found, List.prefix_append_right_inj,
    candidateScopeNames]
  split
  · rw [existingScopes_append, existingScopes_append, grows.existingScopes_eq unasked,
      List.flatMap_append, List.flatMap_append, List.prefix_append_right_inj]
    simpa [existingScopes] using grows.global.order
  · simp only [grows.existingScopes_eq unasked, List.prefix_rfl]

/-- A message that a case decides is decided by the same case as before. -/
theorem deciding?_eq_some (grows : before.GrowsTo after) (unasked : globalName ∉ selection.scopes)
    (found : before.missingCase? selection = none) {message : String} {decisive : Case}
    (first : before.deciding? selection message = some decisive) :
    after.deciding? selection message = some decisive :=
  (grows.candidates_prefix unasked found).find?_eq_some first

/-- All parsers that were found are found afterwards, too: the global scope is searched last. -/
theorem widens_resolve? (grows : before.GrowsTo after)
    (unasked : globalName ∉ selection.scopes) :
    Widens (Scope.resolve? (before.visibleScopes selection))
      (Scope.resolve? (after.visibleScopes selection)) := by
  intro query parser there
  rw [visibleScopes, if_neg unasked, Scope.resolve?, List.findSome?_append] at there ⊢
  rw [grows.existingScopes_eq unasked]
  rcases Option.or_eq_some_iff.mp there with earlier | ⟨nowhere, last⟩
  · rw [earlier, Option.some_or]
  · rw [nowhere, Option.none_or]
    rw [List.findSome?_singleton] at last ⊢
    exact grows.global.parsers query parser last

end GrowsTo

/-- An accepted message is left undecided: nothing that is asked for is missing, but no candidate's
condition matches. -/
structure Unmatched (catalog : Catalog) (input : Input) (selection : Selection) : Prop where
  resolves : catalog.Resolves selection
  undecided : ∃ message context, catalog.normalise input = .ok (message, context) ∧
    ∀ candidate ∈ catalog.candidates selection, candidate.condition.isMatch message = false

/-- What was decided stays when the global scope grows, unless it was not selected. -/
theorem GrowsTo.transform_eq {before after : Catalog} {input : Input} {selection : Selection}
    (grows : before.GrowsTo after) (unasked : globalName ∉ selection.scopes)
    (matched : ¬ before.Unmatched input selection)
    (cases : ∀ name scope, before.transform input selection ≠ .error (.caseNotFound name scope))
    (parsers : ∀ parser caseName,
      before.transform input selection ≠ .error (.unresolvedParser parser caseName)) :
    after.transform input selection = before.transform input selection := by
  rw [transform_phases] at cases parsers ⊢
  rw [transform_phases before, normalise_congr grows.settings, grows.missingScope?_eq unasked]
  cases accepted : before.normalise input with
  | error error => rfl
  | ok read =>
      obtain ⟨message, context⟩ := read
      cases missing : before.missingCase? selection with
      | some name =>
          rw [accepted, missing] at cases
          exact absurd rfl (cases name before.global.name)
      | none =>
          rw [grows.missingCase?_eq_none missing]
          cases absent : before.missingScope? selection with
          | some name => rfl
          | none =>
              rw [accepted, missing, absent] at parsers
              cases first : before.deciding? selection message with
              | none =>
                  have resolves := (before.resolves_iff selection).mpr ⟨missing, absent⟩
                  refine absurd ⟨resolves, message, context, accepted, ?_⟩ matched
                  intro candidate member
                  simpa using List.find?_eq_none.mp first candidate member
              | some decisive =>
                  simp only [first] at parsers
                  simp only [grows.deciding?_eq_some unasked missing first, first]
                  -- The same case decides as before, so that only a parser can make a difference.
                  have stays := decisive.parse_of_widens (grows.widens_resolve? unasked) message context
                  refine congrArg (Except.map _) (stays.eq_of_not_mended ?_)
                  rintro error ⟨parser, caseName, rfl⟩ failed
                  rw [failed] at parsers
                  exact parsers parser caseName rfl

/-- **Extending the global scope is conservative.** Let parsers, cases and conditions be registered
into the global scope, some of them perhaps in vain, and let a selection not name this scope. If an
input had an outcome before, other than that of a message which no candidate matches, of a missing
case or of a parser that is not found, it has the same outcome afterwards. -/
theorem transform_run_of_global (catalog : Catalog) (registrations : List Registration)
    (input : Input) (selection : Selection)
    (global : ∀ registration ∈ registrations, registration.target = globalName)
    (unasked : globalName ∉ selection.scopes)
    (matched : ¬ catalog.Unmatched input selection)
    (cases : ∀ name scope, catalog.transform input selection ≠ .error (.caseNotFound name scope))
    (parsers : ∀ parser caseName,
      catalog.transform input selection ≠ .error (.unresolvedParser parser caseName)) :
    (catalog.run (registrations.map fun registration =>
      .single (.register registration))).transform input selection =
        catalog.transform input selection :=
  (catalog.growsTo_run global).transform_eq unasked matched cases parsers

/-- A catalog with a case that refers to a parser, and this parser. -/
def provided : Catalog :=
  (new {} .hexadecimal).run
    [.single (.register (.ofCase dependent none)),
      .single (.register (.ofParser "p" (.function id) none))]

/-- A parser of the same name, which is refused, another one, and a case for the same messages. -/
def additions : List Registration :=
  [.ofParser "p" (.function fun _ => .null) none, .ofParser "q" (.function id) (some "global"),
    .ofCase { dependent with name := "later", message := some (.fixed "n") } none]

/-- The case that there was still decides, and it uses the parser that there was. -/
theorem transform_run_of_global_additions :
    (provided.run (additions.map fun registration =>
      .single (.register registration))).global.cases.names = ["dependent", "later"] ∧
    (provided.run (additions.map fun registration =>
      .single (.register registration))).transform (.message "x") {} =
        .ok ⟨"m", .positional [.string "x"], []⟩ := by
  have made : provided.transform (.message "x") {} = .ok ⟨"m", .positional [.string "x"], []⟩ := rfl
  refine ⟨rfl, (transform_run_of_global provided additions (.message "x") {} ?_ ?_ ?_ ?_ ?_).trans
    made⟩
  · intro registration member
    simp only [additions, List.mem_cons, List.not_mem_nil, or_false] at member
    rcases member with rfl | rfl | rfl <;> rfl
  · exact List.not_mem_nil
  · rintro ⟨-, message, context, accepted, undecided⟩
    cases accepted
    exact absurd (undecided _ List.mem_cons_self) (by decide +kernel)
  · rw [made]
    exact nofun
  · rw [made]
    exact nofun

end Catalog

end ErrorCatalog
