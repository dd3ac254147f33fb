import ErrorCatalog.Catalog.Names
import ErrorCatalog.Proofs.Condition.Participants
import ErrorCatalog.Proofs.Transform.Selection

/-!
# The first matching case decides

A case reports nothing on a message exactly when its condition does not match
(`Case.parse_eq_none_iff`), whether it keeps the message or extracts parameters
from it. So trying cases in turn stops at the first one whose condition matches
(`Catalog.firstReport_of_first`), and `Catalog.transform_of_resolves` gives the
outcome of a transformation: what this case makes of the message, or else the
report on an unmatched message.
-/

namespace ErrorCatalog

/-- A case reports nothing exactly when its condition does not match. -/
theorem Case.parse_eq_none_iff (compiled : Case) (message : String) (scopes : List Scope)
    (context : Option Fields) :
    compiled.parse message scopes context = .ok none ↔
      compiled.condition.isMatch message = false := by
  rw [parse]
  cases compiled.output with
  | kept => cases compiled.condition.isMatch message <;> simp
  | template template =>
      rw [← Condition.extract?_isSome]
      cases compiled.condition.extract? message with
      | none => simp
      | some extraction =>
          simp only [Option.isSome_some, Bool.true_eq_false, iff_false]
          intro nothing
          cases params : compiled.params scopes extraction with
          | error error => simp [params, bind, Except.bind] at nothing
          | ok params => simp_all [bind, Except.bind, pure, Except.pure]

/-- A case reports whatever it matches. -/
theorem Case.parse_ne_none {compiled : Case} {message : String} (scopes : List Scope)
    (context : Option Fields) (matched : compiled.condition.isMatch message = true) :
    compiled.parse message scopes context ≠ .ok none := by
  intro nothing
  have missed := (compiled.parse_eq_none_iff message scopes context).mp nothing
  exact Bool.false_ne_true (missed.symm.trans matched)

namespace Catalog

/-- Cases whose conditions do not match are passed over. -/
theorem firstReport_append (message : String) (visible : List Scope) (context : Option Fields)
    {earlier : List Case} (later : List Case)
    (unmatched : ∀ candidate ∈ earlier, candidate.condition.isMatch message = false) :
    firstReport message visible context (earlier ++ later) =
      firstReport message visible context later := by
  induction earlier with
  | nil => rfl
  | cons candidate rest ih =>
      have nothing : candidate.parse message visible context = .ok none :=
        (candidate.parse_eq_none_iff message visible context).mpr
          (unmatched candidate List.mem_cons_self)
      rw [List.cons_append, firstReport, nothing]
      exact ih fun other member => unmatched other (List.mem_cons_of_mem _ member)

/-- There is no report if no case matches. -/
theorem firstReport_of_unmatched (message : String) (visible : List Scope)
    (context : Option Fields) {cases : List Case}
    (unmatched : ∀ candidate ∈ cases, candidate.condition.isMatch message = false) :
    firstReport message visible context cases = .ok none := by
  have passed := firstReport_append message visible context [] unmatched
  rwa [List.append_nil] at passed

/-- The first case whose condition matches gives the report or the error; later ones are not
tried. -/
theorem firstReport_of_first (message : String) (visible : List Scope) (context : Option Fields)
    {earlier : List Case} {decisive : Case} (later : List Case)
    (unmatched : ∀ candidate ∈ earlier, candidate.condition.isMatch message = false)
    (matched : decisive.condition.isMatch message = true) :
    firstReport message visible context (earlier ++ decisive :: later) =
      decisive.parse message visible context := by
  rw [firstReport_append message visible context _ unmatched, firstReport]
  cases parsed : decisive.parse message visible context with
  | error error => rfl
  | ok report =>
      cases report with
      | some report => rfl
      | none => exact absurd parsed (Case.parse_ne_none visible context matched)

/-- A transformation of an accepted input under a selection that resolves tries the candidates
in turn. -/
theorem transform_eq_firstReport {catalog : Catalog} {input : Input} {selection : Selection}
    {message : String} {context : Option Fields}
    (accepted : catalog.normalise input = .ok (message, context))
    (resolves : catalog.Resolves selection) :
    catalog.transform input selection =
      (firstReport message (catalog.visibleScopes selection) context
        (catalog.candidates selection)).map fun report =>
          report.getD (unmatchedReport message selection.fallback) := by
  rw [transform, accepted, plan_of_resolves resolves]
  simp only [Bind.bind, Except.bind]
  cases firstReport message (catalog.visibleScopes selection) context
    (catalog.candidates selection) <;> rfl

/-- A fallback that is not empty stands in for the message. -/
theorem unmatchedReport_of_fallback (message : String) {text : String} (nonempty : text ≠ "") :
    unmatchedReport message (some text) =
      ⟨text, .named Register.empty, [(Report.fallbackField, .bool true)]⟩ := by
  have kept : (some text).filter (fun text => !text.isEmpty) = some text := by
    simp [Option.filter, nonempty]
  rw [unmatchedReport, kept]
  rfl

/-- Without a fallback the message is kept. -/
theorem unmatchedReport_of_no_fallback (message : String) {fallback : Option String}
    (absent : fallback = none ∨ fallback = some "") :
    unmatchedReport message fallback =
      ⟨message, .named Register.empty, [(Report.keptField, .bool true)]⟩ := by
  rcases absent with rfl | rfl <;> rfl

/-- **The first match decides.** Let an input be accepted with its message and context, and let
a selection resolve. If some candidate's condition matches the message, the outcome, a report
or an error, is what the first such candidate makes of it, whatever candidates come later. If
none matches, the outcome is a report without parameters: a fallback that is not empty, or
else the message itself, with nothing but a flag for its context. -/
theorem transform_of_resolves (catalog : Catalog) (input : Input) (selection : Selection)
    (message : String) (context : Option Fields)
    (accepted : catalog.normalise input = .ok (message, context))
    (resolves : catalog.Resolves selection) :
    (∀ earlier decisive later, catalog.candidates selection = earlier ++ decisive :: later →
      (∀ candidate ∈ earlier, candidate.condition.isMatch message = false) →
      decisive.condition.isMatch message = true →
      (catalog.transform input selection).map some =
        decisive.parse message (catalog.visibleScopes selection) context) ∧
    ((∀ candidate ∈ catalog.candidates selection,
        candidate.condition.isMatch message = false) →
      (∀ text, selection.fallback = some text → text ≠ "" →
        catalog.transform input selection =
          .ok ⟨text, .named Register.empty, [("fallback", .bool true)]⟩) ∧
      (selection.fallback = none ∨ selection.fallback = some "" →
        catalog.transform input selection =
          .ok ⟨message, .named Register.empty, [("original", .bool true)]⟩)) := by
  rw [transform_eq_firstReport accepted resolves]
  constructor
  · intro earlier decisive later listed unmatched matched
    rw [listed, firstReport_of_first _ _ _ later unmatched matched]
    cases parsed : decisive.parse message (catalog.visibleScopes selection) context with
    | error error => rfl
    | ok report =>
        cases report with
        | some report => rfl
        | none => exact absurd parsed (Case.parse_ne_none _ context matched)
  · intro unmatched
    rw [firstReport_of_unmatched message _ context unmatched]
    constructor
    · intro text supplied nonempty
      rw [supplied]
      exact congrArg Except.ok (unmatchedReport_of_fallback message nonempty)
    · intro absent
      exact congrArg Except.ok (unmatchedReport_of_no_fallback message absent)

/-- A case that keeps the messages with a given letter in them. -/
def keeping (name : String) (letter : Char) : Case where
  name := name
  condition := ⟨⟨name, [], .literal [letter], List.nodup_nil⟩⟩
  output := .kept
  parsers := Register.empty
  plan := .positional []
  origin := default

/-- A catalog with two global cases. -/
def letterCatalog : Catalog where
  settings := { createMissingScopes := false }
  global := { name := globalName, cases := ⟨[("a", keeping "a" 'a'), ("b", keeping "b" 'b')]⟩ }
  scopes := Register.empty
  proposals := NameSource.hexadecimal

/-- A selection of both cases. -/
def letterSelection : Selection := { cases := ["a", "b"], fallback := some "unknown" }

/-- All that the selection names exists. -/
theorem letterCatalog_resolves : letterCatalog.Resolves letterSelection where
  cases _ _ := by decide
  scopes _ := by decide

/-- The same cases and a scope with another one, in a catalog where missing scopes count as
empty. -/
def layeredCatalog : Catalog :=
  { letterCatalog with
    settings := {}
    scopes := ⟨[("extra", { name := "extra", cases := ⟨[("d", keeping "d" 'd')]⟩ })]⟩ }

/-- A selection of one global case, of a scope that is missing, and of one that exists. -/
def layeredSelection : Selection :=
  { cases := ["b"], scopes := ["ghost", "extra"], fallback := some "unknown" }

/-- A missing scope resolves where none is required. -/
theorem layeredCatalog_resolves (cases : List String) (fallback : Option String)
    (present : ∀ name ∈ cases, layeredCatalog.global.hasCase name = true) :
    layeredCatalog.Resolves { cases, scopes := ["ghost", "extra"], fallback } where
  cases _ _ := present
  scopes strict := nomatch strict

/-- Of the two cases the second one decides on a message, and on another one neither does. In the
other catalog a global case that is named comes before the one of the scope, one that is not named
comes last or not at all, and the missing scope is passed over. -/
theorem transform_of_resolves_letterCatalog :
    (letterCatalog.transform (.message "cb") letterSelection).map some =
      (keeping "b" 'b').parse "cb" [letterCatalog.global] none ∧
    letterCatalog.transform (.message "c") letterSelection =
      .ok ⟨"unknown", .named Register.empty, [("fallback", .bool true)]⟩ ∧
    (∃ extra, layeredCatalog.findScope? "extra" = some extra ∧
      (layeredCatalog.transform (.message "db") layeredSelection).map some =
        (keeping "b" 'b').parse "db" [extra, layeredCatalog.global] none ∧
      (layeredCatalog.transform (.message "ad") layeredSelection).map some =
        (keeping "d" 'd').parse "ad" [extra, layeredCatalog.global] none ∧
      (layeredCatalog.transform (.message "ba") { scopes := ["ghost", "extra"] }).map some =
        (keeping "a" 'a').parse "ba" [extra, layeredCatalog.global] none) ∧
    layeredCatalog.transform (.message "a") layeredSelection =
      .ok ⟨"unknown", .named Register.empty, [("fallback", .bool true)]⟩ := by
  have named : layeredCatalog.Resolves layeredSelection :=
    layeredCatalog_resolves ["b"] (some "unknown") (by decide)
  have unnamed : layeredCatalog.Resolves { scopes := ["ghost", "extra"] } :=
    layeredCatalog_resolves [] none nofun
  refine ⟨?_, ?_, ⟨_, rfl, ?_, ?_, ?_⟩, ?_⟩
  · exact (transform_of_resolves letterCatalog (.message "cb") letterSelection "cb" none rfl
      letterCatalog_resolves).1 [keeping "a" 'a'] (keeping "b" 'b') [] rfl
      (by decide +kernel) (by decide +kernel)
  · exact ((transform_of_resolves letterCatalog (.message "c") letterSelection "c" none rfl
      letterCatalog_resolves).2 (by decide +kernel)).1 "unknown" rfl (by decide)
  · exact (transform_of_resolves layeredCatalog (.message "db") layeredSelection "db" none rfl
      named).1 [] (keeping "b" 'b') [keeping "d" 'd'] rfl nofun (by decide +kernel)
  · exact (transform_of_resolves layeredCatalog (.message "ad") layeredSelection "ad" none rfl
      named).1 [keeping "b" 'b'] (keeping "d" 'd') [] rfl (by decide +kernel) (by decide +kernel)
  · exact (transform_of_resolves layeredCatalog (.message "ba") _ "ba" none rfl
      unnamed).1 [keeping "d" 'd'] (keeping "a" 'a') [keeping "b" 'b'] rfl (by decide +kernel)
      (by decide +kernel)
  · exact ((transform_of_resolves layeredCatalog (.message "a") layeredSelection "a" none rfl
      named).2 (by decide +kernel)).1 "unknown" rfl (by decide)

end Catalog

end ErrorCatalog
