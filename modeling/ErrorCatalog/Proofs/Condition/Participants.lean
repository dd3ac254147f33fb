import Mathlib.Data.List.Basic
import ErrorCatalog.Condition
import ErrorCatalog.Proofs.Register

/-!
# Extraction by the groups that took part

Extraction counts: it compares the number of named captures with the number of
all captures, of which the former are found by name and the latter by position.
`Condition.extract?_of_participants` says what this amounts to if one looks at
the groups that took part in the match, each with its name and its text
(`Pattern.participants?`): parameters are mixed if some of these groups have a
name and some have none, named if all have one, and positional if none has.

- `Pattern.filterMap_id_captures`, `Pattern.filterMap_namedCapture?`: what is
  found by position, and what is found by name;
- `Extraction.Classified`: extractions of lists of participants;
- `Condition.extract?_eq_some_iff`: what is extracted is so classified.
-/

namespace ErrorCatalog

namespace Pattern

/-! ## Participants -/

/-- A group that took part in a match, with the text that it captured. -/
structure Participant where
  name : Option String
  text : String
  deriving DecidableEq

/-- The named capture of a participant. -/
def Participant.entry? (participant : Participant) : Option (String × String) :=
  participant.name.map fun name => (name, participant.text)

/-- The groups that captured something, in order, with their names. -/
def participating : List (Option String) → List (Option String) → List Participant
  | name :: names, some text :: captures => ⟨name, text⟩ :: participating names captures
  | _ :: names, none :: captures => participating names captures
  | _, _ => []

/-- The groups that took part in the leftmost match, in order, if there is a match. -/
def participants? (pattern : Pattern) (message : String) : Option (List Participant) :=
  (pattern.captures? message).map (participating pattern.groupNames)

/-- There are participants exactly where a pattern matches. -/
theorem participants?_isSome (pattern : Pattern) (message : String) :
    (pattern.participants? message).isSome = pattern.isMatch message := by
  rw [participants?, captures?, isMatch, Option.isSome_map, Option.isSome_map]

theorem length_captures {pattern : Pattern} {message : String} {captures : List (Option String)}
    (captured : pattern.captures? message = some captures) :
    captures.length = pattern.groupNames.length := by
  obtain ⟨spans, -, rfl⟩ := Option.map_eq_some_iff.mp captured
  rw [List.length_map, List.length_range']

/-- By position, the texts of all participants are found. -/
theorem filterMap_id_captures {names captures : List (Option String)}
    (aligned : captures.length = names.length) :
    captures.filterMap id = (participating names captures).map (·.text) := by
  induction names generalizing captures with
  | nil =>
      rw [List.length_eq_zero_iff.mp aligned]
      rfl
  | cons name names ih =>
      cases captures with
      | nil => cases aligned
      | cons capture captures =>
          have others := ih (Nat.succ.inj aligned)
          cases capture with
          | none => exact others
          | some text => exact congrArg (text :: ·) others

/-- The participants keep the order of the groups. -/
theorem sublist_names (names captures : List (Option String)) :
    ((participating names captures).map (·.name)).Sublist names := by
  induction names generalizing captures with
  | nil => exact List.Sublist.slnil
  | cons name names ih =>
      match captures with
      | [] => exact List.nil_sublist _
      | none :: captures => exact (ih captures).cons name
      | some text :: captures => exact (ih captures).cons_cons name

/-- A name is looked up group by group. -/
theorem namedCapture?_cons (head capture : Option String) (names captures : List (Option String))
    (name : String) :
    namedCapture? (head :: names) (capture :: captures) name =
      if head = some name then capture else namedCapture? names captures name := by
  by_cases here : head = some name
  · simp [namedCapture?, List.idxOf?_cons, here]
  · simp only [namedCapture?, List.idxOf?_cons, here, ↓reduceIte, beq_iff_eq]
    cases names.idxOf? (some name) <;> simp

/-- A group that no listed name belongs to is passed over. -/
theorem filterMap_namedCapture?_cons {head capture : Option String}
    {names captures : List (Option String)} {listed : List String}
    (apart : ∀ name ∈ listed, head ≠ some name) :
    (listed.filterMap fun name =>
        (namedCapture? (head :: names) (capture :: captures) name).map fun text => (name, text)) =
      listed.filterMap fun name =>
        (namedCapture? names captures name).map fun text => (name, text) := by
  apply List.filterMap_congr
  intro name member
  rw [namedCapture?_cons, if_neg (apart name member)]

/-- By name, the named participants are found in order, if the names of groups are different. -/
theorem filterMap_namedCapture? {names captures : List (Option String)}
    (aligned : captures.length = names.length) (distinct : (names.filterMap id).Nodup) :
    ((names.filterMap id).filterMap fun name =>
        (namedCapture? names captures name).map fun text => (name, text)) =
      (participating names captures).filterMap Participant.entry? := by
  induction names generalizing captures with
  | nil => rfl
  | cons head names ih =>
      cases captures with
      | nil => cases aligned
      | cons capture captures =>
          have others := fun distinct => ih (Nat.succ.inj aligned) distinct
          cases head with
          | none =>
              have listed : (none :: names).filterMap id = names.filterMap id := rfl
              rw [listed] at distinct ⊢
              have apart : ∀ name ∈ names.filterMap id, none ≠ some name := fun _ _ => nofun
              rw [filterMap_namedCapture?_cons apart, others distinct]
              cases capture <;> rfl
          | some own =>
              -- The names of the other groups are not that of this one, which looking them up
              -- passes over.
              have listed : (some own :: names).filterMap id = own :: names.filterMap id := rfl
              rw [listed] at distinct ⊢
              obtain ⟨absent, distinct⟩ := List.nodup_cons.mp distinct
              have apart : ∀ name ∈ names.filterMap id, some own ≠ some name := by
                intro name member same
                exact absent (Option.some.inj same ▸ member)
              rw [List.filterMap_cons, filterMap_namedCapture?_cons apart, others distinct,
                namedCapture?_cons, if_pos rfl]
              cases capture <;> rfl

/-- The named participants keep their names. -/
theorem map_fst_filterMap_entry? (participants : List Participant) :
    (participants.filterMap Participant.entry?).map (·.1) = participants.filterMap (·.name) := by
  rw [List.map_filterMap]
  congr 1
  funext participant
  cases participant with
  | mk name text => cases name <;> rfl

/-- No two participants have one name if no two groups have one. -/
theorem nodup_participating {names : List (Option String)} (captures : List (Option String))
    (distinct : (names.filterMap id).Nodup) :
    ((participating names captures).filterMap (·.name)).Nodup := by
  have listed := (sublist_names names captures).filterMap id
  rw [List.filterMap_map] at listed
  exact distinct.sublist listed

/-- No two participants of a match have one name. -/
theorem nodup_participants {pattern : Pattern} {message : String} {participants : List Participant}
    (took : pattern.participants? message = some participants) :
    (participants.filterMap (·.name)).Nodup := by
  obtain ⟨captures, -, rfl⟩ := Option.map_eq_some_iff.mp took
  exact nodup_participating captures pattern.distinct

/-- The pattern `(?P<a>x)|(y)(z)?`, which declares groups of both kinds. -/
def eitherKind : Pattern where
  text := "(?P<a>x)|(y)(z)?"
  groupNames := [some "a", none, none]
  node := .alt 0 (.group 1 (.literal ['x']))
    (.seq (.group 2 (.literal ['y'])) (.opt 1 true (.group 3 (.literal ['z']))))
  distinct := List.pairwise_singleton _ _

/-- The groups that take part depend on the branch that matches. -/
theorem participants?_eitherKind :
    eitherKind.participants? "x" = some [⟨some "a", "x"⟩] ∧
    eitherKind.participants? "yz" = some [⟨none, "y"⟩, ⟨none, "z"⟩] := by
  constructor <;>
    simp [participants?, captures?, spans?, eitherKind, Node.search?, Node.searchFrom, Node.run,
      Node.enter, Node.prefer, Node.orElse, Node.continueAt, Node.accept, Cursor.over?, captured?,
      Span.content, participating, List.range']

end Pattern

/-! ## Classification -/

namespace Extraction

open Pattern

/-- What is extracted from a match, by the groups that took part: some with a name and some
without one, at least one and all with a name, or all without one. -/
inductive Classified (participants : List Participant) : Extraction → Prop
  | mixed (named : ∃ group ∈ participants, group.name ≠ none)
      (unnamed : ∃ group ∈ participants, group.name = none) : Classified participants .mixed
  | named (some : participants ≠ []) (named : ∀ group ∈ participants, group.name ≠ none) :
      Classified participants (.named ⟨participants.filterMap Participant.entry?⟩)
  | positional (unnamed : ∀ group ∈ participants, group.name = none) :
      Classified participants (.positional (participants.map (·.text)))

/-- The named captures are the named participants, in the order of their groups. -/
theorem entries_namedCaptures {names captures : List (Option String)}
    (aligned : captures.length = names.length) (distinct : (names.filterMap id).Nodup) :
    (namedCaptures names captures).entries =
      (participating names captures).filterMap Participant.entry? := by
  have nodup := nodup_participating captures distinct
  rw [← map_fst_filterMap_entry?] at nodup
  rw [namedCaptures, filterMap_namedCapture? aligned distinct, Register.entries_ofList nodup]

/-- Counting the captures that are found by name classifies the groups. -/
theorem classified_ofCaptures {names captures : List (Option String)}
    (aligned : captures.length = names.length) (distinct : (names.filterMap id).Nodup) :
    Classified (participating names captures) (ofCaptures names captures) := by
  have texts := filterMap_id_captures aligned
  have entries := entries_namedCaptures aligned distinct
  generalize participating names captures = participants at texts entries ⊢
  -- The named captures are as many as the participants with a name, all captures as many as the
  -- participants.
  have none_iff : (namedCaptures names captures).isEmpty = true ↔
      ∀ group ∈ participants, group.name = none := by
    rw [Register.isEmpty, List.isEmpty_iff, entries, List.filterMap_eq_nil_iff]
    simp only [Participant.entry?, Option.map_eq_none_iff]
  have all_iff : (namedCaptures names captures).size = (captures.filterMap id).length ↔
      ∀ group ∈ participants, group.name ≠ none := by
    rw [Register.size, entries, texts, List.length_map, List.filterMap_length_eq_length]
    simp only [Participant.entry?, Option.isSome_map, Option.isSome_iff_ne_none]
  by_cases unnamed : ∀ group ∈ participants, group.name = none
  · rw [ofCaptures, if_pos (none_iff.mpr unnamed), texts]
    exact .positional unnamed
  · have some : (namedCaptures names captures).isEmpty ≠ true := mt none_iff.mp unnamed
    by_cases named : ∀ group ∈ participants, group.name ≠ none
    · have nonempty : participants ≠ [] := by
        rintro rfl
        exact unnamed nofun
      rw [ofCaptures, if_neg some, if_pos (all_iff.mpr named)]
      have shape : namedCaptures names captures = ⟨participants.filterMap Participant.entry?⟩ := by
        rw [← entries]
      rw [shape]
      exact .named nonempty named
    · rw [ofCaptures, if_neg some, if_neg (mt all_iff.mp named)]
      push Not at unnamed named
      exact .mixed unnamed named

/-- Participants are of one class. -/
theorem Classified.unique {participants : List Participant} {left right : Extraction}
    (first : Classified participants left) (second : Classified participants right) :
    left = right := by
  have clash : (∃ group ∈ participants, group.name ≠ none) →
      ¬ ∀ group ∈ participants, group.name = none := by
    rintro ⟨group, member, named⟩ unnamed
    exact named (unnamed group member)
  cases first with
  | mixed named unnamed =>
      cases second with
      | mixed => rfl
      | named some all =>
          obtain ⟨group, member, absent⟩ := unnamed
          exact absurd absent (all group member)
      | positional none => exact absurd none (clash named)
  | named some all =>
      obtain ⟨group, member⟩ := List.exists_mem_of_ne_nil participants some
      cases second with
      | mixed named unnamed =>
          obtain ⟨group, member, absent⟩ := unnamed
          exact absurd absent (all group member)
      | named => rfl
      | positional none => exact absurd none (clash ⟨group, member, all group member⟩)
  | positional none =>
      cases second with
      | mixed named unnamed => exact absurd none (clash named)
      | named some all =>
          obtain ⟨group, member⟩ := List.exists_mem_of_ne_nil participants some
          exact absurd none (clash ⟨group, member, all group member⟩)
      | positional => rfl

end Extraction

namespace Condition

open Pattern

/-- Parameters are extracted exactly where a condition matches. -/
theorem extract?_isSome (condition : Condition) (message : String) :
    (condition.extract? message).isSome = condition.isMatch message := by
  rw [extract?, isMatch, captures?, Pattern.isMatch, Option.isSome_map, Option.isSome_map]

/-- A message that matches has participants. -/
theorem exists_participants {condition : Condition} {message : String}
    (matched : condition.isMatch message = true) :
    ∃ participants, condition.pattern.participants? message = some participants := by
  rw [isMatch, ← participants?_isSome] at matched
  exact Option.isSome_iff_exists.mp matched

/-- What is extracted from a match is the class of its participants. -/
theorem extract?_eq_some_iff {condition : Condition} {message : String}
    {participants : List Participant}
    (took : condition.pattern.participants? message = some participants)
    (extraction : Extraction) :
    condition.extract? message = some extraction ↔
      Extraction.Classified participants extraction := by
  obtain ⟨captures, captured, rfl⟩ := Option.map_eq_some_iff.mp took
  have classified := Extraction.classified_ofCaptures (length_captures captured)
    condition.pattern.distinct
  rw [extract?, captured, Option.map_some, Option.some_inj]
  constructor
  · rintro rfl
    exact classified
  · exact classified.unique

/-- Whatever is extracted comes from a match and is the class of its participants. -/
theorem exists_classified {condition : Condition} {message : String} {extraction : Extraction}
    (extracted : condition.extract? message = some extraction) :
    condition.isMatch message = true ∧ ∃ participants,
      condition.pattern.participants? message = some participants ∧
      Extraction.Classified participants extraction := by
  have matched : condition.isMatch message = true := by
    rw [← extract?_isSome, extracted]
    rfl
  obtain ⟨participants, took⟩ := exists_participants matched
  exact ⟨matched, participants, took, (extract?_eq_some_iff took extraction).mp extracted⟩

/-- **Extraction looks at the groups that took part.** Nothing is extracted exactly from messages
that do not match. On a message that matches, whatever other groups the pattern declares,
parameters are mixed exactly when a group with a name and one without took part; they are named
exactly when at least one group took part and all of them have names, and then each of these names
leads to the text that its group captured, in the order of the pattern; they are positional
exactly when no group with a name took part, and then they are the captured texts in order. -/
theorem extract?_of_participants (condition : Condition) (message : String) :
    (condition.extract? message = none ↔ condition.isMatch message = false) ∧
    (condition.isMatch message = true → ∃ participants,
      condition.pattern.participants? message = some participants ∧
      (participants.filterMap (·.name)).Nodup ∧
      (condition.extract? message = some .mixed ↔
        (∃ group ∈ participants, group.name ≠ none) ∧
          ∃ group ∈ participants, group.name = none) ∧
      (∀ texts, condition.extract? message = some (.named texts) ↔
        participants ≠ [] ∧ (∀ group ∈ participants, group.name ≠ none) ∧
          texts.entries = participants.filterMap Participant.entry?) ∧
      (∀ texts, condition.extract? message = some (.positional texts) ↔
        (∀ group ∈ participants, group.name = none) ∧ texts = participants.map (·.text))) := by
  constructor
  · rw [← extract?_isSome, Option.isSome_eq_false_iff, Option.isNone_iff_eq_none]
  · intro matched
    obtain ⟨participants, took⟩ := exists_participants matched
    refine ⟨participants, took, nodup_participants took, ?_, ?_, ?_⟩
    · rw [extract?_eq_some_iff took]
      constructor
      · intro classified
        cases classified with
        | mixed named unnamed => exact ⟨named, unnamed⟩
      · rintro ⟨named, unnamed⟩
        exact .mixed named unnamed
    · intro texts
      rw [extract?_eq_some_iff took]
      constructor
      · intro classified
        cases classified with
        | named some named => exact ⟨some, named, rfl⟩
      · rintro ⟨some, named, entries⟩
        obtain ⟨listed⟩ := texts
        cases entries
        exact .named some named
    · intro texts
      rw [extract?_eq_some_iff took]
      constructor
      · intro classified
        cases classified with
        | positional unnamed => exact ⟨unnamed, rfl⟩
      · rintro ⟨unnamed, rfl⟩
        exact .positional unnamed

/-- Only one kind of groups takes part in a match of either message. -/
theorem extract?_of_participants_eitherKind :
    isMatch ⟨eitherKind⟩ "x" = true ∧
    extract? ⟨eitherKind⟩ "x" = some (.named ⟨[("a", "x")]⟩) ∧
    isMatch ⟨eitherKind⟩ "yz" = true ∧
    extract? ⟨eitherKind⟩ "yz" = some (.positional ["y", "z"]) := by
  obtain ⟨named, unnamed⟩ := participants?_eitherKind
  have first : isMatch ⟨eitherKind⟩ "x" = true := by
    rw [isMatch, ← participants?_isSome, named]
    rfl
  have second : isMatch ⟨eitherKind⟩ "yz" = true := by
    rw [isMatch, ← participants?_isSome, unnamed]
    rfl
  refine ⟨first, ?_, second, ?_⟩
  · obtain ⟨participants, took, -, -, iff, -⟩ := (extract?_of_participants ⟨eitherKind⟩ "x").2 first
    cases named.symm.trans took
    exact (iff ⟨[("a", "x")]⟩).mpr ⟨by decide, by decide, rfl⟩
  · obtain ⟨participants, took, -, -, -, iff⟩ :=
      (extract?_of_participants ⟨eitherKind⟩ "yz").2 second
    cases unnamed.symm.trans took
    exact (iff ["y", "z"]).mpr ⟨by decide, rfl⟩

end Condition

end ErrorCatalog
