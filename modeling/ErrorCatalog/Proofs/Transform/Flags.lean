import ErrorCatalog.Proofs.Case.Parameters
import ErrorCatalog.Proofs.Fields
import ErrorCatalog.Proofs.Transform.Outcome

/-!
# What the flags of a report tell

The flags of a report are fields of its context. A message that is kept and a
fallback are marked there (`Catalog.Keeps`, `Catalog.FallsBack`). But the
deciding case passes on the context that it is given, and this context is the
caller's: a mark that it has of its own (`Catalog.Carries`) is taken for one of
the report. `Catalog.flags_of_transform` gives the value of both flags after
every transformation; they tell what became of the message as long as the input
carries no mark, or if no case decides.
-/

namespace ErrorCatalog

/-- A report has a flag if its context has the field with a yes. -/
theorem Report.hasFlag_eq_true_iff (report : Report) (flag : String) :
    report.hasFlag flag = true ↔ Fields.find? report.context flag = some (.bool true) := by
  rw [hasFlag]
  split
  · next marked => simp [marked]
  · next unmarked =>
      constructor
      · exact nofun
      · intro marked
        exact absurd marked unmarked

/-! ## Reports of cases -/

namespace Case

variable {compiled : Case} {message : String} {scopes : List Scope} {context : Option Fields}
  {report : Report}

/-- A case passes the context on, and marks the messages that it keeps. -/
theorem context_of_parse
    (parsed : compiled.parse message scopes context = .ok (some report)) :
    report.context =
      if compiled.keepsMessage then
        Fields.insert (context.getD []) Report.keptField (.bool true)
      else context.getD [] := by
  rcases report_of_parse parsed with ⟨output, rfl⟩ | ⟨_, _, _, output, -, -, rfl⟩
  · simp [keepsMessage, output, keptReport]
  · simp [keepsMessage, output]

/-- A case that keeps messages reports the message. -/
theorem message_of_parse (keeps : compiled.keepsMessage = true)
    (parsed : compiled.parse message scopes context = .ok (some report)) :
    report.message = message := by
  rcases report_of_parse parsed with ⟨-, rfl⟩ | ⟨_, _, _, output, -, -, -⟩
  · rfl
  · simp [keepsMessage, output] at keeps

/-- A message counts as kept if the case keeps it, or if the context says so. -/
theorem isKept_of_parse (parsed : compiled.parse message scopes context = .ok (some report)) :
    report.isKept = true ↔ compiled.keepsMessage = true ∨
      Fields.find? (context.getD []) Report.keptField = some (.bool true) := by
  rw [Report.isKept, Report.hasFlag_eq_true_iff, context_of_parse parsed]
  by_cases keeps : compiled.keepsMessage = true
  · simp [keeps, Fields.find?_insert]
  · simp [keeps]

/-- A case makes no fallback, but the context can say so. -/
theorem isFallback_of_parse
    (parsed : compiled.parse message scopes context = .ok (some report)) :
    report.isFallback = true ↔
      Fields.find? (context.getD []) Report.fallbackField = some (.bool true) := by
  have apart : Report.keptField ≠ Report.fallbackField := by decide
  rw [Report.isFallback, Report.hasFlag_eq_true_iff, context_of_parse parsed]
  split
  · rw [Fields.find?_insert, if_neg apart]
  · rfl

end Case

/-! ## What becomes of a message -/

/-- A fallback that is not empty is supplied. -/
def Selection.HasFallback (selection : Selection) : Prop :=
  ∃ text, selection.fallback = some text ∧ text ≠ ""

/-- A selection without a fallback has none or an empty one. -/
theorem Selection.fallback_of_not_hasFallback {selection : Selection}
    (absent : ¬ selection.HasFallback) : selection.fallback = none ∨ selection.fallback = some "" := by
  cases supplied : selection.fallback with
  | none => exact Or.inl rfl
  | some text =>
      by_cases empty : text = ""
      · exact Or.inr (congrArg some empty)
      · exact absurd ⟨text, supplied, empty⟩ absent

namespace Catalog

/-- The message is kept: the deciding case keeps messages, or no case decides and there is no
fallback. -/
def Keeps (catalog : Catalog) (selection : Selection) (message : String) : Prop :=
  match catalog.deciding? selection message with
  | some decisive => decisive.keepsMessage = true
  | none => ¬ selection.HasFallback

/-- The message is replaced by the fallback: no case decides. -/
def FallsBack (catalog : Catalog) (selection : Selection) (message : String) : Prop :=
  catalog.deciding? selection message = none ∧ selection.HasFallback

/-- An input has a mark of its own: its context, the first configured field that is present, is an
object with the mark in it, or is the mark itself. -/
inductive Carries (catalog : Catalog) (flag : String) : Input → Prop
  | inside {fields context : Fields} {field : String}
      (first : catalog.settings.contextFields.find? (fun field => Fields.contains fields field) =
        some field)
      (found : Fields.find? fields field = some (.object context))
      (marked : Fields.find? context flag = some (.bool true)) : Carries catalog flag (.object fields)
  | itself {fields : Fields}
      (first : catalog.settings.contextFields.find? (fun field => Fields.contains fields field) =
        some flag)
      (marked : Fields.find? fields flag = some (.bool true)) : Carries catalog flag (.object fields)

/-- An input carries a flag in its first context field, or as this field. -/
theorem carries_iff_of_first {catalog : Catalog} {fields : Fields} {field : String} (flag : String)
    (first : catalog.settings.contextFields.find? (fun field => Fields.contains fields field) =
      some field) :
    catalog.Carries flag (.object fields) ↔
      (∃ context, Fields.find? fields field = some (.object context) ∧
        Fields.find? context flag = some (.bool true)) ∨
      field = flag ∧ Fields.find? fields field = some (.bool true) := by
  constructor
  · intro carries
    cases carries with
    | inside own found marked =>
        cases first.symm.trans own
        exact Or.inl ⟨_, found, marked⟩
    | itself own marked =>
        cases first.symm.trans own
        exact Or.inr ⟨rfl, marked⟩
  · rintro (⟨context, found, marked⟩ | ⟨rfl, marked⟩)
    · exact .inside first found marked
    · exact .itself first marked

/-- The context that is found has a flag exactly if the input carries it. -/
theorem marked_searchContext_iff (catalog : Catalog) (fields : Fields) (flag : String) :
    Fields.find? ((catalog.searchContext fields).getD []) flag = some (.bool true) ↔
      catalog.Carries flag (.object fields) := by
  rw [searchContext]
  cases first : catalog.settings.contextFields.find? fun field => Fields.contains fields field with
  | none =>
      constructor
      · exact nofun
      · intro carries
        cases carries with
        | inside own => cases first.symm.trans own
        | itself own => cases first.symm.trans own
  | some field =>
      rw [carries_iff_of_first flag first]
      simp only [Option.bind_eq_bind, Option.bind_some]
      split
      · next missing => simp [missing]
      · next null => simp [null]
      · next context found => simp [found]
      · next value _ nonobject found =>
          have outside : ¬ ∃ context, Fields.find? fields field = some (.object context) ∧
              Fields.find? context flag = some (.bool true) := by
            rintro ⟨context, same, -⟩
            exact nonobject context (Option.some.inj (found.symm.trans same))
          rw [or_iff_right outside, found]
          by_cases own : field = flag <;> simp [own]

/-- The context that is read from an input has a mark exactly if the input carries it. -/
theorem marked_of_normalise {catalog : Catalog} {input : Input} {message : String}
    {context : Option Fields} (accepted : catalog.normalise input = .ok (message, context))
    (flag : String) :
    Fields.find? (context.getD []) flag = some (.bool true) ↔ catalog.Carries flag input := by
  cases input with
  | message text =>
      cases accepted
      exact ⟨nofun, nofun⟩
  | object fields =>
      rw [normalise] at accepted
      split at accepted
      · cases accepted
        exact catalog.marked_searchContext_iff fields flag
      · cases accepted

/-- Where no case matches, a fallback is marked as one. -/
theorem unmatchedReport_of_hasFallback (message : String) {selection : Selection}
    (supplied : selection.HasFallback) :
    ∃ text, unmatchedReport message selection.fallback =
      ⟨text, .named Register.empty, [(Report.fallbackField, .bool true)]⟩ := by
  obtain ⟨text, same, nonempty⟩ := supplied
  rw [same]
  exact ⟨text, unmatchedReport_of_fallback message nonempty⟩

/-- Where no case matches and there is no fallback, the message is marked as kept. -/
theorem unmatchedReport_of_not_hasFallback (message : String) {selection : Selection}
    (absent : ¬ selection.HasFallback) :
    unmatchedReport message selection.fallback =
      ⟨message, .named Register.empty, [(Report.keptField, .bool true)]⟩ :=
  unmatchedReport_of_no_fallback message (Selection.fallback_of_not_hasFallback absent)

/-- Without a deciding case the flags tell whether there was a fallback. -/
theorem flags_unmatchedReport (message : String) (selection : Selection) :
    ((unmatchedReport message selection.fallback).isKept = true ↔ ¬ selection.HasFallback) ∧
      ((unmatchedReport message selection.fallback).isFallback = true ↔
        selection.HasFallback) := by
  by_cases supplied : selection.HasFallback
  · obtain ⟨text, same⟩ := unmatchedReport_of_hasFallback message supplied
    rw [same]
    exact ⟨iff_of_false nofun (not_not_intro supplied), iff_of_true rfl supplied⟩
  · rw [unmatchedReport_of_not_hasFallback message supplied]
    exact ⟨iff_of_true rfl supplied, iff_of_false nofun supplied⟩

/-- **What the flags of a report tell.** A report is flagged as kept exactly if the message was
kept, or if a case decided and the input carried this mark; it is flagged as a fallback exactly if
no case decided and there was a fallback, or if a case decided and the input carried that mark. A
message that was kept is the one of the input. -/
theorem flags_of_transform (catalog : Catalog) (input : Input) (selection : Selection)
    (report : Report) (made : catalog.transform input selection = .ok report) :
    ∃ message context, catalog.normalise input = .ok (message, context) ∧
      (report.isKept = true ↔ catalog.Keeps selection message ∨
        (∃ decisive, catalog.deciding? selection message = some decisive) ∧
          catalog.Carries Report.keptField input) ∧
      (report.isFallback = true ↔ catalog.FallsBack selection message ∨
        (∃ decisive, catalog.deciding? selection message = some decisive) ∧
          catalog.Carries Report.fallbackField input) ∧
      (catalog.Keeps selection message → report.message = message) := by
  obtain ⟨message, context, accepted, decided⟩ := report_of_transform made
  refine ⟨message, context, accepted, ?_⟩
  rw [← marked_of_normalise accepted, ← marked_of_normalise accepted, Keeps, FallsBack]
  cases first : catalog.deciding? selection message with
  | none =>
      rw [first] at decided
      subst decided
      refine ⟨?_, ?_, ?_⟩
      · simpa using (flags_unmatchedReport message selection).1
      · simpa using (flags_unmatchedReport message selection).2
      · intro absent
        rw [unmatchedReport_of_not_hasFallback message absent]
  | some decisive =>
      rw [first] at decided
      refine ⟨?_, ?_, ?_⟩
      · simpa using Case.isKept_of_parse decided
      · simpa using Case.isFallback_of_parse decided
      · intro keeps
        exact Case.message_of_parse keeps decided

/-- A case that replaces its messages. -/
def replacing : CaseDefinition where
  name := "boom"
  condition := .literal "boom"
  message := some (.fixed "Replaced")

/-- A catalog with this case only. -/
def replacingCatalog : Catalog :=
  (new {} .hexadecimal).run [.single (.register (.ofCase replacing none))]

/-- A message for this case whose context has a mark. -/
def markedInput (flag : String) : Input :=
  .object [("context", .object [(flag, .bool true)]), ("message", .string "boom")]

/-- The catalog is reached by registering its cases. -/
theorem replacingCatalog_reachable : replacingCatalog.Reachable :=
  reachable_register _ _ ⟨nofun, nofun⟩

/-- Without a mark the flags tell a fallback from a message that is replaced by a case. -/
theorem flags_of_transform_replacingCatalog :
    (∃ report, replacingCatalog.transform (.message "calm") { fallback := some "Fallback" } =
      .ok report ∧ report.isFallback = true) ∧
    (∃ report, replacingCatalog.transform (.message "boom") { fallback := some "Fallback" } =
      .ok report ∧ report.isFallback ≠ true ∧ report.isKept ≠ true) := by
  constructor
  · obtain ⟨_, _, accepted, -, fallback, -⟩ := flags_of_transform replacingCatalog (.message "calm")
      { fallback := some "Fallback" } _ rfl
    cases accepted
    exact ⟨_, rfl, fallback.mpr (Or.inl ⟨rfl, "Fallback", rfl, by decide⟩)⟩
  · obtain ⟨_, _, accepted, kept, fallback, -⟩ := flags_of_transform replacingCatalog
      (.message "boom") { fallback := some "Fallback" } _ rfl
    cases accepted
    refine ⟨_, rfl, fun flagged => ?_, fun flagged => ?_⟩
    · rcases fallback.mp flagged with ⟨undecided, -⟩ | ⟨-, carried⟩
      · cases undecided
      · cases carried
    · rcases kept.mp flagged with keeps | ⟨-, carried⟩
      · cases keeps
      · cases carried

/-- A message that is replaced is flagged as kept, or as a fallback, if its context is marked so. -/
theorem isKept_markedInput :
    replacingCatalog.Reachable ∧
    (∃ report, replacingCatalog.transform (markedInput "original") {} = .ok report ∧
      report.message = "Replaced" ∧ report.isKept = true ∧
      ¬ replacingCatalog.Keeps {} "boom") ∧
    (∃ report, replacingCatalog.transform (markedInput "fallback") {} = .ok report ∧
      report.message = "Replaced" ∧ report.isFallback = true ∧
      ¬ replacingCatalog.FallsBack {} "boom") := by
  refine ⟨replacingCatalog_reachable, ⟨_, rfl, rfl, rfl, ?_⟩, ⟨_, rfl, rfl, rfl, ?_⟩⟩
  · intro keeps
    cases keeps
  · rintro ⟨undecided, -⟩
    cases undecided

end Catalog

end ErrorCatalog
