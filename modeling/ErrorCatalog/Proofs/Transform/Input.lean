import ErrorCatalog.Proofs.Transform.Outcome

/-!
# Inputs and their contexts

A value is checked when an input is made of it, and an object is checked again
when it is transformed. Both checks accept the values that `Value.IsInput`
describes, and report the others with one error (`Input.ofValue_eq_error_iff`,
`Catalog.transform_eq_invalidInput_iff`).

The context of an object depends on one field only: the first configured one
that the object has. `Fields.Offers` says what this field is taken for, and
`Catalog.normalise_object_iff` that it is what a transformation finds.
-/

namespace ErrorCatalog

/-! ## The two checks -/

/-- The values that can be transformed: a text, or an object whose message is a text. -/
inductive Value.IsInput : Value → Prop
  | text (text : String) : IsInput (.string text)
  | object {fields : Fields} {text : String}
      (message : Fields.find? fields "message" = some (.string text)) : IsInput (.object fields)

namespace Input

/-- An input as a plain value. -/
def toValue : Input → Value
  | message text => .string text
  | object fields => .object fields

/-- The message of an object is its text field of this name. -/
theorem message?_eq_some_iff {fields : Fields} {text : String} :
    message? fields = some text ↔ Fields.find? fields "message" = some (.string text) := by
  rw [message?, messageField]
  split
  · next found read => simp [read]
  · next other => exact iff_of_false (Option.some_ne_none text).symm (other text)

/-- An object is an input if it has a message. -/
theorem isInput_object_iff {fields : Fields} :
    Value.IsInput (.object fields) ↔ (message? fields).isSome := by
  rw [Option.isSome_iff_exists]
  constructor
  · rintro (_ | message)
    exact ⟨_, message?_eq_some_iff.mpr message⟩
  · rintro ⟨text, read⟩
    exact .object (message?_eq_some_iff.mp read)

/-- A value of the right form is read, and nothing of it is lost. -/
theorem ofValue_of_isInput {value : Value} (accepted : value.IsInput) :
    ∃ input, ofValue value = .ok input ∧ input.toValue = value := by
  cases accepted with
  | text text => exact ⟨.message text, rfl, rfl⟩
  | @object fields text message =>
      exact ⟨.object fields, if_pos (isInput_object_iff.mp (.object message)), rfl⟩

/-- Any other value is refused, and the error shows it. -/
theorem ofValue_of_not_isInput {value : Value} (refused : ¬ value.IsInput) :
    ofValue value = .error (.invalidInput value) := by
  cases value with
  | string text => exact absurd (.text text) refused
  | object fields => exact if_neg (fun isSome => refused (isInput_object_iff.mpr isSome))
  | null => rfl
  | bool value => rfl
  | number value => rfl
  | array items => rfl

/-- A value that can be transformed is taken as it is. -/
theorem ofValue_eq_ok_iff (value : Value) (input : Input) :
    ofValue value = .ok input ↔ value.IsInput ∧ input.toValue = value := by
  constructor
  · intro taken
    by_cases accepted : value.IsInput
    · obtain ⟨own, read, same⟩ := ofValue_of_isInput accepted
      cases taken.symm.trans read
      exact ⟨accepted, same⟩
    · rw [ofValue_of_not_isInput accepted] at taken
      cases taken
  · rintro ⟨accepted, rfl⟩
    cases input with
    | message text => rfl
    | object fields => exact if_pos (isInput_object_iff.mp accepted)

/-- Every other value is refused, and the error shows the value. -/
theorem ofValue_eq_error_iff (value : Value) (error : Error) :
    ofValue value = .error error ↔ ¬ value.IsInput ∧ error = .invalidInput value := by
  constructor
  · intro failed
    by_cases accepted : value.IsInput
    · obtain ⟨input, read, -⟩ := ofValue_of_isInput accepted
      cases failed.symm.trans read
    · rw [ofValue_of_not_isInput accepted] at failed
      exact ⟨accepted, (Except.error.inj failed).symm⟩
  · rintro ⟨refused, rfl⟩
    exact ofValue_of_not_isInput refused

end Input

/-! ## The field that decides -/

namespace Fields

/-- A name is the first of some names that an object has a field of, and this field has the given
value. -/
def IsFirst (fields : Fields) (names : List String) (name : String) (value : Value) : Prop :=
  ∃ earlier later, names = earlier ++ name :: later ∧
    (∀ other ∈ earlier, Fields.find? fields other = none) ∧ Fields.find? fields name = some value

/-- The context that a field stands for. -/
def contextOf (name : String) : Value → Option Fields
  | .null => none
  | .object context => some context
  | value => some [(name, value)]

/-- The context that an object offers under some names. -/
inductive Offers (fields : Fields) (names : List String) : Option Fields → Prop
  /-- There is no field of any of the names. -/
  | absent (lacking : ∀ name ∈ names, Fields.find? fields name = none) : Offers fields names none
  /-- The first field is null, and those after it do not count. -/
  | null {name : String} (first : IsFirst fields names name .null) : Offers fields names none
  /-- The first field is an object, which is the context. -/
  | object {name : String} {context : Fields}
      (first : IsFirst fields names name (.object context)) : Offers fields names (some context)
  /-- The first field is something else, and is the only field of the context. -/
  | single {name : String} {value : Value} (first : IsFirst fields names name value)
      (present : value ≠ .null) (plain : ∀ context, value ≠ .object context) :
      Offers fields names (some [(name, value)])

variable {fields : Fields} {names : List String} {name : String} {value : Value}

/-- A context that is neither null nor an object is put into one. -/
theorem contextOf_of_plain (present : value ≠ .null) (plain : ∀ context, value ≠ .object context) :
    contextOf name value = some [(name, value)] := by
  cases value with
  | null => exact absurd rfl present
  | object context => exact absurd rfl (plain context)
  | _ => rfl

theorem contains_eq_false_iff : Fields.contains fields name = false ↔
    Fields.find? fields name = none := by
  rw [contains, Option.isSome_eq_false_iff, Option.isNone_iff_eq_none]

/-- The first name that an object has is the first one found in it. -/
theorem isFirst_iff : IsFirst fields names name value ↔
    names.find? (fun name => Fields.contains fields name) = some name ∧
      Fields.find? fields name = some value := by
  rw [List.find?_eq_some_iff_append]
  constructor
  · rintro ⟨earlier, later, listed, lacking, found⟩
    have present : Fields.contains fields name = true := by rw [contains, found]; rfl
    refine ⟨⟨present, earlier, later, listed, fun other member => ?_⟩, found⟩
    rw [contains_eq_false_iff.mpr (lacking other member)]
    rfl
  · rintro ⟨⟨-, earlier, later, listed, lacking⟩, found⟩
    refine ⟨earlier, later, listed, fun other member => ?_, found⟩
    exact contains_eq_false_iff.mp (by simpa using lacking other member)

end Fields

namespace Catalog

variable {catalog : Catalog} {fields : Fields}

/-- Without any of the context fields there is no context. -/
theorem searchContext_of_lacking
    (lacking : ∀ name ∈ catalog.settings.contextFields, Fields.find? fields name = none) :
    catalog.searchContext fields = none := by
  have nowhere : catalog.settings.contextFields.find?
      (fun name => Fields.contains fields name) = none := by
    rw [List.find?_eq_none]
    intro name member
    rw [Fields.contains_eq_false_iff.mpr (lacking name member)]
    exact Bool.false_ne_true
  rw [searchContext, nowhere]
  rfl

/-- The context is that of the first context field which the object has. -/
theorem searchContext_of_isFirst {name : String} {value : Value}
    (first : Fields.IsFirst fields catalog.settings.contextFields name value) :
    catalog.searchContext fields = Fields.contextOf name value := by
  obtain ⟨searched, found⟩ := Fields.isFirst_iff.mp first
  rw [searchContext, searched]
  simp only [Option.bind_eq_bind, Option.bind_some, found]
  cases value <;> rfl

/-- The search for a context finds what the object offers. -/
theorem searchContext_eq_iff (context : Option Fields) :
    catalog.searchContext fields = context ↔
      Fields.Offers fields catalog.settings.contextFields context := by
  constructor
  · rintro rfl
    cases searched : catalog.settings.contextFields.find?
        (fun name => Fields.contains fields name) with
    | none =>
        have lacking : ∀ name ∈ catalog.settings.contextFields,
            Fields.find? fields name = none := by
          intro name member
          have missing := List.find?_eq_none.mp searched name member
          exact Fields.contains_eq_false_iff.mp (by simpa using missing)
        rw [searchContext_of_lacking lacking]
        exact .absent lacking
    | some name =>
        have present : Fields.contains fields name = true := List.find?_some searched
        obtain ⟨value, found⟩ := Option.isSome_iff_exists.mp present
        have first := Fields.isFirst_iff.mpr ⟨searched, found⟩
        rw [searchContext_of_isFirst first]
        cases value with
        | null => exact .null first
        | object context => exact .object first
        | bool value => exact .single first nofun nofun
        | number value => exact .single first nofun nofun
        | string value => exact .single first nofun nofun
        | array items => exact .single first nofun nofun
  · intro offered
    cases offered with
    | absent lacking => exact searchContext_of_lacking lacking
    | null first => exact searchContext_of_isFirst first
    | object first => exact searchContext_of_isFirst first
    | single first present plain =>
        rw [searchContext_of_isFirst first, Fields.contextOf_of_plain present plain]

/-- An object is read as its message and the context that it offers. -/
theorem normalise_object_iff (message : String) (context : Option Fields) :
    catalog.normalise (.object fields) = .ok (message, context) ↔
      Fields.find? fields "message" = some (.string message) ∧
        Fields.Offers fields catalog.settings.contextFields context := by
  rw [normalise, ← Input.message?_eq_some_iff, ← searchContext_eq_iff]
  cases Input.message? fields <;> simp

/-! ## Transformations -/

/-- Inputs that are read alike are transformed alike. -/
theorem transform_of_normalise_eq {left right : Input}
    (same : catalog.normalise left = catalog.normalise right) (selection : Selection) :
    catalog.transform left selection = catalog.transform right selection := by
  rw [transform, transform, same]

/-- Only reading an input can fail with an error of the input. -/
theorem normalise_of_kind {input : Input} {selection : Selection} {error : Error}
    (failed : catalog.transform input selection = .error error) (kind : error.kind = .input) :
    catalog.normalise input = .error error := by
  rw [transform_phases] at failed
  split at failed
  · next refused => rw [refused, Except.error.inj failed]
  · cases failed
    cases kind
  · cases failed
    cases kind
  · split at failed
    · cases failed
    · have matching := Case.kind_of_parse (eq_error_of_map failed)
      cases matching.symm.trans kind

/-- The check of an object in a transformation is the one that is made of values. -/
theorem normalise_object_eq_error_iff (error : Error) :
    catalog.normalise (.object fields) = .error error ↔
      Input.ofValue (.object fields) = .error error := by
  rw [Input.ofValue_eq_error_iff, Input.isInput_object_iff, normalise]
  cases Input.message? fields <;> simp [eq_comm]

/-- An object is refused as an input exactly if it is not read as one. -/
theorem transform_eq_invalidInput_iff (selection : Selection) (given : Value) :
    catalog.transform (.object fields) selection = .error (.invalidInput given) ↔
      Input.ofValue (.object fields) = .error (.invalidInput given) := by
  rw [← normalise_object_eq_error_iff]
  exact ⟨fun failed => normalise_of_kind failed rfl, transform_of_refused⟩

/-- The context of an object is settled by the first configured field that it has. -/
theorem normalise_of_isFirst {others : Fields} {message name : String} {value : Value}
    (text : Fields.find? fields "message" = some (.string message))
    (first : Fields.IsFirst fields catalog.settings.contextFields name value)
    (same : Fields.find? others "message" = some (.string message))
    (again : Fields.IsFirst others catalog.settings.contextFields name value) :
    catalog.normalise (.object others) = catalog.normalise (.object fields) := by
  rw [normalise, normalise, Input.message?_eq_some_iff.mpr text,
    Input.message?_eq_some_iff.mpr same, searchContext_of_isFirst first,
    searchContext_of_isFirst again]

/-- **One check of inputs, one field for the context.** A value is refused as an input exactly when
it is neither a text nor an object with a text for its message, and the error shows the value; any
other value is taken as it is. An object that was not checked is refused in a transformation
exactly when the check refuses it, and with the same error; otherwise it makes no difference
whether it was checked. The context of an accepted object is what it offers under the configured
names: so objects with the same message and the same first field have the same outcome, and an
object without any of these fields has that of its bare message. -/
theorem transform_ofValue (catalog : Catalog) (selection : Selection) (value : Value) :
    (∀ error, Input.ofValue value = .error error ↔
      ¬ value.IsInput ∧ error = .invalidInput value) ∧
    (∀ input, Input.ofValue value = .ok input ↔ value.IsInput ∧ input.toValue = value) ∧
    ∀ fields, value = .object fields →
      (∀ given, catalog.transform (.object fields) selection = .error (.invalidInput given) ↔
        Input.ofValue value = .error (.invalidInput given)) ∧
      (∀ input, Input.ofValue value = .ok input →
        catalog.transform input selection = catalog.transform (.object fields) selection) ∧
      (∀ message context, catalog.normalise (.object fields) = .ok (message, context) ↔
        Fields.find? fields "message" = some (.string message) ∧
          Fields.Offers fields catalog.settings.contextFields context) ∧
      ∀ message, Fields.find? fields "message" = some (.string message) →
        ((∀ name ∈ catalog.settings.contextFields, Fields.find? fields name = none) →
          catalog.transform (.object fields) selection =
            catalog.transform (.message message) selection) ∧
        ∀ name found others,
          Fields.IsFirst fields catalog.settings.contextFields name found →
          Fields.find? others "message" = some (.string message) →
          Fields.IsFirst others catalog.settings.contextFields name found →
          catalog.transform (.object others) selection =
            catalog.transform (.object fields) selection := by
  refine ⟨Input.ofValue_eq_error_iff value, Input.ofValue_eq_ok_iff value, ?_⟩
  rintro fields rfl
  refine ⟨transform_eq_invalidInput_iff selection, ?_, normalise_object_iff, ?_⟩
  · intro input taken
    obtain ⟨-, same⟩ := (Input.ofValue_eq_ok_iff _ input).mp taken
    cases input with
    | message text => cases same
    | object own =>
        cases same
        rfl
  · intro message text
    constructor
    · intro lacking
      have bare : catalog.normalise (.object fields) = .ok (message, none) :=
        (normalise_object_iff message none).mpr ⟨text, .absent lacking⟩
      exact transform_of_normalise_eq bare selection
    · intro name found others first same again
      exact transform_of_normalise_eq (normalise_of_isFirst text first same again) selection

/-- An error object whose first context field is null, with another one after it. -/
def mutedFields : Fields :=
  [("context", .null), ("data", .object [("id", .string "x")]), ("message", .string "b")]

/-- A null in the first field hides the others: nothing depends on them. -/
theorem transform_ofValue_mutedFields :
    letterCatalog.normalise (.object mutedFields) = .ok ("b", none) ∧
    letterCatalog.transform (.object [("context", .null), ("message", .string "b")])
        letterSelection =
      letterCatalog.transform (.object mutedFields) letterSelection := by
  obtain ⟨-, -, objects⟩ := transform_ofValue letterCatalog letterSelection (.object mutedFields)
  obtain ⟨-, -, read, outcome⟩ := objects mutedFields rfl
  have muted : Fields.IsFirst mutedFields letterCatalog.settings.contextFields "context" .null :=
    ⟨[], ["response", "data"], rfl, nofun, rfl⟩
  have alone : Fields.IsFirst [("context", .null), ("message", .string "b")]
      letterCatalog.settings.contextFields "context" .null :=
    ⟨[], ["response", "data"], rfl, nofun, rfl⟩
  exact ⟨(read "b" none).mpr ⟨rfl, .null muted⟩,
    (outcome "b" rfl).2 "context" .null _ muted rfl alone⟩

end Catalog

end ErrorCatalog
