import ErrorCatalog.Proofs.Transform.Flags

/-!
# The context is passed on

A context travels next to its message, but it takes no part in any decision: what
an input is transformed into is the report on its bare message, with the context
put in at the end (`Catalog.transform_eq_map`). So inputs with one message differ
only in what is passed on to their reports (`Catalog.transform_of_same_message`),
and nothing is passed on when no case decides.
-/

namespace ErrorCatalog

namespace Case

/-- The context of a report of the case, given the one that came with the message. -/
def passOn (compiled : Case) (context : Fields) : Fields :=
  if compiled.keepsMessage then Fields.insert context Report.keptField (.bool true) else context

/-- A case with a template passes the context on as it is. -/
theorem passOn_of_template {compiled : Case} (replaces : compiled.keepsMessage = false)
    (context : Fields) : compiled.passOn context = context := by
  rw [passOn, replaces, if_neg Bool.false_ne_true]

/-- A case that keeps messages marks the context. -/
theorem passOn_of_kept {compiled : Case} (keeps : compiled.keepsMessage = true)
    (context : Fields) :
    compiled.passOn context = Fields.insert context Report.keptField (.bool true) :=
  if_pos keeps

/-- What a case makes of a message does not depend on the context, which is only passed on. -/
theorem parse_eq_map (compiled : Case) (message : String) (scopes : List Scope)
    (context : Option Fields) :
    compiled.parse message scopes context =
      (compiled.parse message scopes none).map (Option.map fun report =>
        { report with context := compiled.passOn (context.getD []) }) := by
  unfold parse
  cases output : compiled.output with
  | kept =>
      have keeps : compiled.keepsMessage = true := by rw [keepsMessage, output]
      cases compiled.condition.isMatch message with
      | false => rfl
      | true =>
          simp only [↓reduceIte, Except.map, Option.map_some, passOn_of_kept keeps]
          rfl
  | template template =>
      have replaces : compiled.keepsMessage = false := by rw [keepsMessage, output]
      cases compiled.condition.extract? message with
      | none => rfl
      | some extraction =>
          simp only [passOn_of_template replaces]
          cases compiled.params scopes extraction <;> rfl

end Case

namespace Catalog

/-- A report with the context that came with the message, as the deciding case passes it on. Without
a deciding case there is only a flag. -/
def surround (catalog : Catalog) (selection : Selection) (message : String)
    (context : Option Fields) (report : Report) : Report :=
  match catalog.deciding? selection message with
  | none => report
  | some decisive => { report with context := decisive.passOn (context.getD []) }

/-- The context does not matter for the message of a report. -/
theorem message_surround (catalog : Catalog) (selection : Selection) (message : String)
    (context : Option Fields) (report : Report) :
    (catalog.surround selection message context report).message = report.message := by
  unfold surround
  split <;> rfl

/-- The context does not matter for the parameters of a report. -/
theorem params_surround (catalog : Catalog) (selection : Selection) (message : String)
    (context : Option Fields) (report : Report) :
    (catalog.surround selection message context report).params = report.params := by
  unfold surround
  split <;> rfl

/-- **The message alone decides.** An input is transformed like its bare message, and then its
context is put in. -/
theorem transform_eq_map {catalog : Catalog} {input : Input} {message : String}
    {context : Option Fields} (accepted : catalog.normalise input = .ok (message, context))
    (selection : Selection) :
    catalog.transform input selection =
      (catalog.transform (.message message) selection).map
        (catalog.surround selection message context) := by
  have bare : catalog.normalise (.message message) = .ok (message, none) := rfl
  cases cases : catalog.missingCase? selection with
  | some name =>
      rw [transform_phases, accepted, cases, transform_phases, bare, cases]
      rfl
  | none =>
      cases scopes : catalog.missingScope? selection with
      | some name =>
          rw [transform_phases, accepted, cases, scopes, transform_phases, bare, cases, scopes]
          rfl
      | none =>
          rw [transform_eq accepted cases scopes, transform_eq bare cases scopes]
          unfold surround
          cases first : catalog.deciding? selection message with
          | none => rfl
          | some decisive =>
              have passed := decisive.parse_eq_map message (catalog.visibleScopes selection) context
              simp only [passed]
              -- A deciding case never has nothing to say, so there is a report to put it in.
              cases parsed : decisive.parse message (catalog.visibleScopes selection) none with
              | error error => rfl
              | ok outcome =>
                  cases outcome with
                  | none =>
                      have matched := isMatch_of_deciding? first
                      exact absurd parsed (decisive.parse_ne_none _ none matched)
                  | some report => rfl

section SameMessage

variable {catalog : Catalog} {selection : Selection} {left right : Input} {message : String}
  {first second : Option Fields}

/-- An input fails exactly as its bare message does. -/
theorem transform_error_iff (accepted : catalog.normalise left = .ok (message, first))
    (error : Error) :
    catalog.transform left selection = .error error ↔
      catalog.transform (.message message) selection = .error error := by
  rw [transform_eq_map accepted]
  cases catalog.transform (.message message) selection <;> simp [Except.map]

/-- The reports on two inputs are one report, with the context of either put in. -/
theorem exists_surround (acceptedLeft : catalog.normalise left = .ok (message, first))
    (acceptedRight : catalog.normalise right = .ok (message, second)) {report : Report}
    (made : catalog.transform left selection = .ok report) :
    ∃ bare, catalog.transform (.message message) selection = .ok bare ∧
      report = catalog.surround selection message first bare ∧
      catalog.transform right selection = .ok (catalog.surround selection message second bare) := by
  rw [transform_eq_map acceptedLeft] at made
  obtain ⟨bare, alone, rfl⟩ := exists_of_map_eq_ok made
  refine ⟨bare, alone, rfl, ?_⟩
  rw [transform_eq_map acceptedRight, alone]
  rfl

/-- Without a deciding case the only field of the context is a flag. -/
theorem context_of_undecided {report : Report}
    (undecided : catalog.deciding? selection message = none)
    (made : catalog.transform (.message message) selection = .ok report) :
    report.context = [(Report.fallbackField, .bool true)] ∧ selection.HasFallback ∨
      report.context = [(Report.keptField, .bool true)] ∧ ¬ selection.HasFallback := by
  obtain ⟨own, context, accepted, decided⟩ := report_of_transform made
  cases accepted
  rw [undecided] at decided
  subst decided
  by_cases supplied : selection.HasFallback
  · obtain ⟨text, same⟩ := unmatchedReport_of_hasFallback message supplied
    exact Or.inl ⟨congrArg Report.context same, supplied⟩
  · have same := unmatchedReport_of_not_hasFallback message supplied
    exact Or.inr ⟨congrArg Report.context same, supplied⟩

end SameMessage

/-- **The context is inert.** Two accepted inputs with the same message have the same outcome, up to
the context of the report: both fail with one error, or both succeed with one message and the same
parameters. If a case decides that replaces messages, the contexts of the reports are those that
were found in the inputs, empty if there was none. If the deciding case keeps messages, they are
these with the field `original` set to true over any value that it had. If no case decides, nothing
of them is left: the reports are equal, and the context is one flag. -/
theorem transform_of_same_message (catalog : Catalog) (selection : Selection)
    (left right : Input) (message : String) (first second : Option Fields)
    (acceptedLeft : catalog.normalise left = .ok (message, first))
    (acceptedRight : catalog.normalise right = .ok (message, second)) :
    (∀ error, catalog.transform left selection = .error error ↔
      catalog.transform right selection = .error error) ∧
    ∀ report, catalog.transform left selection = .ok report →
      ∃ other, catalog.transform right selection = .ok other ∧
        other.message = report.message ∧ other.params = report.params ∧
        (∀ decisive, catalog.deciding? selection message = some decisive →
          (decisive.keepsMessage = false →
            report.context = first.getD [] ∧ other.context = second.getD []) ∧
          (decisive.keepsMessage = true →
            report.context = Fields.insert (first.getD []) "original" (.bool true) ∧
            other.context = Fields.insert (second.getD []) "original" (.bool true) ∧
            ∀ name,
              Fields.find? report.context name =
                (if "original" = name then some (.bool true)
                else Fields.find? (first.getD []) name) ∧
              Fields.find? other.context name =
                (if "original" = name then some (.bool true)
                else Fields.find? (second.getD []) name))) ∧
        (catalog.deciding? selection message = none → other = report ∧
          (report.context = [("fallback", .bool true)] ∧ selection.HasFallback ∨
            report.context = [("original", .bool true)] ∧ ¬ selection.HasFallback)) := by
  constructor
  · intro error
    rw [transform_error_iff acceptedLeft, transform_error_iff acceptedRight]
  · intro report made
    obtain ⟨bare, alone, rfl, other⟩ := exists_surround acceptedLeft acceptedRight made
    refine ⟨_, other, ?_, ?_, ?_, ?_⟩
    · rw [message_surround, message_surround]
    · rw [params_surround, params_surround]
    · intro decisive decides
      simp only [surround, decides]
      constructor
      · intro replaces
        exact ⟨Case.passOn_of_template replaces _, Case.passOn_of_template replaces _⟩
      · intro keeps
        simp only [Case.passOn_of_kept keeps]
        exact ⟨rfl, rfl, fun name => ⟨Fields.find?_insert _ _ _ _, Fields.find?_insert _ _ _ _⟩⟩
    · intro undecided
      have context := context_of_undecided undecided alone
      simp only [surround, undecided]
      exact ⟨trivial, context⟩

/-- An error object with a message, a context and another field. -/
def tracedInput (message : String) : Input :=
  .object [("code", .nat 7), ("data", .object [("id", .nat 7), ("original", .string "no")]),
    ("message", .string message)]

/-- A case that replaces the message passes the context on, one that keeps it writes its mark over
the field `original`, and without a case the context is lost. -/
theorem transform_of_same_message_tracedInput :
    (∃ report, replacingCatalog.transform (tracedInput "boom") {} = .ok report ∧
      report.message = "Replaced" ∧
      report.context = [("id", .nat 7), ("original", .string "no")]) ∧
    (∃ report, letterCatalog.transform (tracedInput "b") letterSelection = .ok report ∧
      report.message = "b" ∧ report.context = [("id", .nat 7), ("original", .bool true)]) ∧
    letterCatalog.transform (tracedInput "c") letterSelection =
      letterCatalog.transform (.message "c") letterSelection := by
  refine ⟨?_, ?_, ?_⟩
  · obtain ⟨report, made, message, -, decided, -⟩ := (transform_of_same_message replacingCatalog {}
      (.message "boom") (tracedInput "boom") "boom" _ _ rfl rfl).2 _ rfl
    exact ⟨report, made, message, ((decided _ rfl).1 rfl).2⟩
  · obtain ⟨report, made, message, -, decided, -⟩ := (transform_of_same_message letterCatalog
      letterSelection (.message "b") (tracedInput "b") "b" _ _ rfl rfl).2 _ rfl
    exact ⟨report, made, message, ((decided _ rfl).2 rfl).2.1.trans rfl⟩
  · obtain ⟨report, made, -, -, -, undecided⟩ := (transform_of_same_message letterCatalog
      letterSelection (.message "c") (tracedInput "c") "c" _ _ rfl rfl).2 _ rfl
    rw [made, (undecided rfl).1]
    rfl

end Catalog

end ErrorCatalog
