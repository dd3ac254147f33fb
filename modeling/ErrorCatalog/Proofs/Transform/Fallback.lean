import ErrorCatalog.Proofs.Transform.Outcome

/-!
# Fallbacks

A fallback is looked at when all candidates have been tried. `Catalog.attempt`
tries them and knows of no fallback, and every transformation completes an
attempt (`Catalog.transform_eq_attempt`). So a fallback cannot change an outcome
unless the attempt is undecided, and `Catalog.attempt_eq_ok_none_iff` says which
attempts are.

There are several ways to supply a fallback, and some requests supply two. The
first one of a request that is not empty counts (`Request.run_eq`).
-/

namespace ErrorCatalog

/-- The first text that is not empty. -/
def firstNonempty (texts : List String) : Option String := texts.find? fun text => text ≠ ""

theorem firstNonempty_cons_empty (texts : List String) :
    firstNonempty ("" :: texts) = firstNonempty texts :=
  List.find?_cons_of_neg (by decide)

theorem firstNonempty_cons {text : String} (nonempty : text ≠ "") (texts : List String) :
    firstNonempty (text :: texts) = some text :=
  List.find?_cons_of_pos (by simpa using nonempty)

/-- An empty text at the end does not matter. -/
theorem firstNonempty_pair_empty (text : String) :
    firstNonempty [text, ""] = firstNonempty [text] := by
  by_cases empty : text = ""
  · rw [empty]
    rfl
  · rw [firstNonempty_cons empty, firstNonempty_cons empty]

/-- The text that is taken is taken again. -/
theorem firstNonempty_toList (texts : List String) :
    firstNonempty (firstNonempty texts).toList = firstNonempty texts := by
  cases first : firstNonempty texts with
  | none => rfl
  | some text =>
      have nonempty : text ≠ "" := by simpa using List.find?_some first
      exact firstNonempty_cons nonempty []

namespace Catalog

/-! ## Trying without a fallback -/

section Attempt

variable {catalog : Catalog} {cases scopes : List String} {input : Input} {message : String}

/-- The message of an input with the report of the first case that makes one. -/
def attempt (catalog : Catalog) (cases scopes : List String) (input : Input) :
    Except Error (String × Option Report) := do
  let (message, context) ← catalog.normalise input
  let plan ← catalog.plan { cases, scopes }
  let report ← firstReport message plan.visible context plan.candidates
  return (message, report)

/-- An input is accepted with its message and a selection resolves, but no candidate matches. -/
structure Undecided (catalog : Catalog) (cases scopes : List String) (input : Input)
    (message : String) : Prop where
  accepted : ∃ context, catalog.normalise input = .ok (message, context)
  resolves : catalog.Resolves { cases, scopes }
  unmatched : ∀ candidate ∈ catalog.candidates { cases, scopes },
    candidate.condition.isMatch message = false

/-- The fallback is only used to complete an attempt. -/
theorem transform_eq_attempt (catalog : Catalog) (input : Input) (selection : Selection) :
    catalog.transform input selection =
      (catalog.attempt selection.cases selection.scopes input).map fun outcome =>
        outcome.2.getD (unmatchedReport outcome.1 selection.fallback) := by
  -- A plan is made of the names alone.
  have planned : catalog.plan { cases := selection.cases, scopes := selection.scopes } =
    catalog.plan selection := rfl
  rw [transform, attempt, planned]
  cases catalog.normalise input with
  | error error => rfl
  | ok read =>
      obtain ⟨message, context⟩ := read
      cases catalog.plan selection with
      | error error => rfl
      | ok plan =>
          simp only [Bind.bind, Except.bind]
          cases firstReport message plan.visible context plan.candidates <;> rfl

/-- Where the selection resolves, an attempt is left to the deciding case. -/
theorem attempt_of_resolves {context : Option Fields}
    (accepted : catalog.normalise input = .ok (message, context))
    (resolves : catalog.Resolves { cases, scopes }) :
    catalog.attempt cases scopes input =
      match catalog.deciding? { cases, scopes } message with
      | none => .ok (message, none)
      | some decisive =>
          (decisive.parse message (catalog.visibleScopes { cases, scopes }) context).map
            fun report => (message, report) := by
  rw [attempt, accepted, plan_of_resolves resolves]
  simp only [Bind.bind, Except.bind, firstReport_candidates]
  cases catalog.deciding? { cases, scopes } message with
  | none => rfl
  | some decisive =>
      simp only
      cases decisive.parse message (catalog.visibleScopes { cases, scopes }) context <;> rfl

/-- An attempt makes no report exactly if no candidate matches. -/
theorem attempt_eq_ok_none_iff :
    catalog.attempt cases scopes input = .ok (message, none) ↔
      catalog.Undecided cases scopes input message := by
  constructor
  · intro tried
    obtain ⟨⟨own, context⟩, accepted, planned⟩ := exists_of_bind_eq_ok tried
    obtain ⟨plan, planned, -⟩ := exists_of_bind_eq_ok planned
    have resolves := (catalog.plan_eq_ok_iff { cases, scopes }).mp ⟨plan, planned⟩
    rw [attempt_of_resolves accepted resolves] at tried
    cases first : catalog.deciding? { cases, scopes } own with
    | none =>
        rw [first] at tried
        cases tried
        exact ⟨⟨context, accepted⟩, resolves, (catalog.deciding?_eq_none_iff _ _).mp first⟩
    | some decisive =>
        rw [first] at tried
        obtain ⟨report, parsed, same⟩ := exists_of_map_eq_ok tried
        cases same
        exact absurd parsed (Case.parse_ne_none _ context (isMatch_of_deciding? first))
  · rintro ⟨⟨context, accepted⟩, resolves, unmatched⟩
    rw [attempt_of_resolves accepted resolves, (catalog.deciding?_eq_none_iff _ _).mpr unmatched]

/-- Without an undecided attempt the fallbacks of two transformations do not matter. -/
theorem transform_of_decided (decided : ∀ message, ¬ catalog.Undecided cases scopes input message)
    (first second : Option String) :
    catalog.transform input { cases, scopes, fallback := first } =
      catalog.transform input { cases, scopes, fallback := second } := by
  rw [transform_eq_attempt, transform_eq_attempt]
  cases tried : catalog.attempt cases scopes input with
  | error error => rfl
  | ok outcome =>
      obtain ⟨message, report⟩ := outcome
      cases report with
      | none => exact absurd (attempt_eq_ok_none_iff.mp tried) (decided message)
      | some report => rfl

/-- Where no case decides, the fallback does. -/
theorem transform_of_undecided (undecided : catalog.Undecided cases scopes input message)
    (fallback : Option String) :
    catalog.transform input { cases, scopes, fallback } =
      .ok (unmatchedReport message fallback) := by
  rw [transform_eq_attempt, attempt_eq_ok_none_iff.mpr undecided]
  rfl

end Attempt

/-! ## The fallback that counts -/

/-- The report on an unmatched message: the fallback that counts, or else the message. -/
theorem unmatchedReport_eq (message : String) (fallback : Option String) :
    unmatchedReport message fallback =
      ⟨(firstNonempty fallback.toList).getD message, .named Register.empty,
        [(if (firstNonempty fallback.toList).isSome then "fallback" else "original",
          .bool true)]⟩ := by
  cases fallback with
  | none => rfl
  | some text =>
      by_cases empty : text = ""
      · rw [empty]
        rfl
      · rw [unmatchedReport_of_fallback message empty, Option.toList_some,
          firstNonempty_cons empty]
        rfl

/-- An empty fallback is none. -/
theorem transform_firstNonempty (catalog : Catalog) (cases scopes : List String) (input : Input)
    (fallback : Option String) :
    catalog.transform input { cases, scopes, fallback := firstNonempty fallback.toList } =
      catalog.transform input { cases, scopes, fallback } := by
  have same : ∀ message, unmatchedReport message (firstNonempty fallback.toList) =
      unmatchedReport message fallback := by
    intro message
    rw [unmatchedReport_eq, unmatchedReport_eq, firstNonempty_toList]
  simp only [transform_eq_attempt, same]

/-- A call with an empty fallback is a call. -/
theorem callWithFallback_empty (bound : Bound) (input : Input) :
    bound.callWithFallback input "" = bound.call input :=
  if_pos rfl

/-- A call with its own fallback puts it in place of the bound one. -/
theorem callWithFallback_of_nonempty (bound : Bound) (input : Input) {own : String}
    (nonempty : own ≠ "") :
    bound.callWithFallback input own =
      bound.catalog.transform input { bound.selection with fallback := some own } :=
  if_neg (by simpa using nonempty)

end Catalog

/-- A way to ask for a transformation of an input under a selection, with its fallbacks. -/
inductive Request where
  /-- The selection is given with the input. -/
  | direct (fallback : Option String)
  /-- The selection was bound before. -/
  | bound (fallback : Option String)
  /-- The selection was bound before, and another fallback is given with the input. -/
  | overriding (usual : Option String) (own : String)

namespace Request

/-- The fallbacks of a request, the one that is given with the input first. -/
def fallbacks : Request → List String
  | direct fallback => fallback.toList
  | bound fallback => fallback.toList
  | overriding usual own => own :: usual.toList

/-- The outcome of a request. -/
def run (catalog : Catalog) (cases scopes : List String) (input : Input) :
    Request → Except Error Report
  | direct fallback => catalog.transform input { cases, scopes, fallback }
  | bound fallback => (catalog.bind cases scopes fallback).call input
  | overriding usual own => (catalog.bind cases scopes usual).callWithFallback input own

/-- Of the fallbacks of a request the first one that is not empty counts. -/
theorem run_eq (catalog : Catalog) (cases scopes : List String) (input : Input)
    (request : Request) :
    request.run catalog cases scopes input =
      catalog.transform input { cases, scopes, fallback := firstNonempty request.fallbacks } := by
  cases request with
  | direct fallback => exact (catalog.transform_firstNonempty cases scopes input fallback).symm
  | bound fallback => exact (catalog.transform_firstNonempty cases scopes input fallback).symm
  | overriding usual own =>
      by_cases empty : own = ""
      · rw [run, fallbacks, empty, Catalog.callWithFallback_empty, firstNonempty_cons_empty]
        exact (catalog.transform_firstNonempty cases scopes input usual).symm
      · rw [run, fallbacks, Catalog.callWithFallback_of_nonempty _ _ empty,
          firstNonempty_cons empty]
        rfl

/-- Where no case decides, a request reports its first fallback that is not empty, else the
message. -/
theorem run_of_undecided {catalog : Catalog} {cases scopes : List String} {input : Input}
    {message : String} (undecided : catalog.Undecided cases scopes input message)
    (request : Request) :
    request.run catalog cases scopes input =
      .ok ⟨(firstNonempty request.fallbacks).getD message, .named Register.empty,
        [(if (firstNonempty request.fallbacks).isSome then "fallback" else "original",
          .bool true)]⟩ := by
  rw [run_eq, Catalog.transform_of_undecided undecided, Catalog.unmatchedReport_eq,
    firstNonempty_toList]

end Request

namespace Catalog

/-- **The first fallback that is not empty counts, and only for unmatched messages.** A call with a
bound selection and a fallback of its own is the transformation with the first of its own fallback
and the bound one that is not empty. Whichever way an input is transformed and whatever the
fallbacks are, the outcome is the same, unless the input is accepted, the selection resolves and no
candidate matches; then the message is the first fallback that is not empty, or else that of the
input, and the only field of the context tells which. An empty fallback is like none, be it the one
of a transformation, a bound one, or one that is given with the input. -/
theorem callWithFallback_eq (catalog : Catalog) (cases scopes : List String) (input : Input) :
    (∀ bound own,
      (catalog.bind cases scopes bound).callWithFallback input own =
        catalog.transform input
          { cases, scopes, fallback := firstNonempty (own :: bound.toList) } ∧
      (catalog.bindScopes scopes bound).callWithFallback input own =
        catalog.transform input { scopes, fallback := firstNonempty (own :: bound.toList) }) ∧
    (∀ first second : Request, (∀ message, ¬ catalog.Undecided cases scopes input message) →
      first.run catalog cases scopes input = second.run catalog cases scopes input) ∧
    (∀ message, catalog.Undecided cases scopes input message → ∀ request : Request,
      request.run catalog cases scopes input =
        .ok ⟨(firstNonempty request.fallbacks).getD message, .named Register.empty,
          [(if (firstNonempty request.fallbacks).isSome then "fallback" else "original",
            .bool true)]⟩) ∧
    catalog.transform input { cases, scopes, fallback := some "" } =
      catalog.transform input { cases, scopes, fallback := none } ∧
    (catalog.bind cases scopes (some "")).call input =
      (catalog.bind cases scopes none).call input ∧
    (∀ own, (catalog.bind cases scopes (some "")).callWithFallback input own =
      (catalog.bind cases scopes none).callWithFallback input own) ∧
    ∀ bound, (catalog.bind cases scopes bound).callWithFallback input "" =
      (catalog.bind cases scopes bound).call input := by
  have overriding (cases : List String) (bound : Option String) (own : String) :
      (catalog.bind cases scopes bound).callWithFallback input own =
        catalog.transform input
          { cases, scopes, fallback := firstNonempty (own :: bound.toList) } :=
    Request.run_eq catalog cases scopes input (.overriding bound own)
  have empty := catalog.transform_firstNonempty cases scopes input (some "")
  refine ⟨?_, ?_, ?_, empty.symm, empty.symm, ?_, ?_⟩
  · intro bound own
    exact ⟨overriding cases bound own, overriding [] bound own⟩
  · intro first second decided
    rw [Request.run_eq, Request.run_eq]
    exact transform_of_decided decided _ _
  · intro message undecided request
    exact Request.run_of_undecided undecided request
  · intro own
    rw [overriding, overriding, Option.toList_some, Option.toList_none,
      firstNonempty_pair_empty]
  · intro bound
    exact callWithFallback_empty _ input

/-- The letter c is left undecided. -/
theorem letterCatalog_undecided : letterCatalog.Undecided ["a", "b"] [] (.message "c") "c" where
  accepted := ⟨none, rfl⟩
  resolves := ⟨letterCatalog_resolves.cases, letterCatalog_resolves.scopes⟩
  unmatched := by decide +kernel

/-- The letter b is decided. -/
theorem letterCatalog_decided (message : String) :
    ¬ letterCatalog.Undecided ["a", "b"] [] (.message "b") message := by
  rintro ⟨⟨context, accepted⟩, -, unmatched⟩
  cases accepted
  have missed := unmatched (keeping "b" 'b') (List.mem_cons_of_mem _ List.mem_cons_self)
  have matched : (keeping "b" 'b').condition.isMatch "b" = true := by decide +kernel
  exact Bool.false_ne_true (missed.symm.trans matched)

/-- An empty fallback leaves the bound one in force, another one replaces it, and neither is looked
at when a case matches. -/
theorem callWithFallback_eq_letterCatalog :
    (letterCatalog.bind ["a", "b"] [] (some "unknown")).callWithFallback (.message "c") "" =
      .ok ⟨"unknown", .named Register.empty, [("fallback", .bool true)]⟩ ∧
    (letterCatalog.bind ["a", "b"] [] (some "unknown")).callWithFallback (.message "c") "other" =
      .ok ⟨"other", .named Register.empty, [("fallback", .bool true)]⟩ ∧
    (letterCatalog.bind ["a", "b"] [] (some "unknown")).callWithFallback (.message "b") "other" =
      letterCatalog.transform (.message "b") { cases := ["a", "b"] } := by
  obtain ⟨-, -, undecided, -⟩ := callWithFallback_eq letterCatalog ["a", "b"] [] (.message "c")
  obtain ⟨-, decided, -⟩ := callWithFallback_eq letterCatalog ["a", "b"] [] (.message "b")
  have fallback := undecided "c" letterCatalog_undecided
  exact ⟨fallback (.overriding (some "unknown") ""),
    fallback (.overriding (some "unknown") "other"),
    decided (.overriding (some "unknown") "other") (.direct none) letterCatalog_decided⟩

end Catalog

end ErrorCatalog
