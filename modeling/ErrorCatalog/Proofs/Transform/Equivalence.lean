import Mathlib.Logic.Relation
import ErrorCatalog.Proofs.Transform.Agreement

/-!
# Selections that mean the same

A selection can be written in several ways: names of cases do not count next to
the global scope, which is searched anyway when neither it nor a case is named;
a name that is repeated, or a scope that is missing without this being an error,
adds nothing. `Catalog.Rewrites` lists these steps from one way to another, and
`Catalog.transform_eq_of_eqvGen` says that no number of them, in either
direction, changes an outcome.

A repeated scope is searched twice, but a second search of the same scope is
made only if the first one found nothing (`findSome?_repeated`).
-/

namespace ErrorCatalog

/-- A second visit of an item finds nothing new. -/
theorem findSome?_repeated {α β : Type} (look : α → Option β) {before : List α} {item : α}
    (earlier : item ∈ before) (after : List α) :
    (before ++ item :: after).findSome? look = (before ++ after).findSome? look := by
  rw [List.findSome?_append, List.findSome?_append, List.findSome?_cons]
  cases found : before.findSome? look with
  | some first => rfl
  | none => rw [List.findSome?_eq_none_iff.mp found item earlier]

/-- A search finds nothing new in an item that stands before. -/
theorem find?_repeated {α : Type} (suits : α → Bool) {before : List α} {item : α}
    (earlier : item ∈ before) (after : List α) :
    (before ++ item :: after).find? suits = (before ++ after).find? suits := by
  rw [← List.findSome?_guard, ← List.findSome?_guard, findSome?_repeated _ earlier]

theorem mem_repeated_iff {α : Type} {before : List α} {item other : α} (earlier : item ∈ before)
    (after : List α) : other ∈ before ++ item :: after ↔ other ∈ before ++ after := by
  rw [List.mem_append, List.mem_append, List.mem_cons]
  constructor
  · rintro (first | rfl | last)
    · exact Or.inl first
    · exact Or.inl earlier
    · exact Or.inr last
  · rintro (first | last)
    · exact Or.inl first
    · exact Or.inr (Or.inr last)

namespace Catalog

/-- A step from one way to write a selection to another. -/
inductive Rewrites (catalog : Catalog) : Selection → Selection → Prop
  /-- Names of cases do not count if the global scope is asked for. -/
  | ignoredCases {cases scopes : List String} {fallback : Option String}
      (asked : globalName ∈ scopes) :
      Rewrites catalog ⟨cases, scopes, fallback⟩ ⟨[], scopes, fallback⟩
  /-- Without cases the global scope is asked for, as the last one. -/
  | impliedGlobal {scopes : List String} {fallback : Option String}
      (unasked : globalName ∉ scopes) :
      Rewrites catalog ⟨[], scopes, fallback⟩ ⟨[], scopes ++ [globalName], fallback⟩
  /-- A scope is named once more. -/
  | repeatedScope {cases before after : List String} {fallback : Option String} {name : String}
      (earlier : name ∈ before) :
      Rewrites catalog ⟨cases, before ++ name :: after, fallback⟩ ⟨cases, before ++ after, fallback⟩
  /-- A case is named once more. -/
  | repeatedCase {before after scopes : List String} {fallback : Option String} {name : String}
      (earlier : name ∈ before) :
      Rewrites catalog ⟨before ++ name :: after, scopes, fallback⟩
        ⟨before ++ after, scopes, fallback⟩
  /-- Missing scopes count as empty. -/
  | missingScopes {cases scopes : List String} {fallback : Option String}
      (lenient : catalog.settings.createMissingScopes = true) :
      Rewrites catalog ⟨cases, scopes, fallback⟩
        ⟨cases, scopes.filter catalog.hasScope, fallback⟩

/-- Scopes that are missing have no part in those that exist. -/
theorem existingScopes_filter (catalog : Catalog) (names : List String) :
    catalog.existingScopes (names.filter catalog.hasScope) = catalog.existingScopes names := by
  rw [existingScopes, existingScopes, List.filterMap_filter]
  refine List.filterMap_congr fun name _ => ?_
  cases found : catalog.findScope? name <;> simp [hasScope, found]

section Alike

variable {catalog : Catalog} {cases : List String} {fallback : Option String}

/-- Scopes may be named in another way if the first missing one is the same and all searches find
the same. -/
theorem alike_of_scopes {first second : List String}
    (asked : globalName ∈ first ↔ globalName ∈ second)
    (missing : catalog.missingScope? ⟨cases, first, fallback⟩ =
      catalog.missingScope? ⟨cases, second, fallback⟩)
    (found : ∀ (β : Type) (look : Scope → Option β),
      (first.findSome? fun name => (catalog.findScope? name).bind look) =
        second.findSome? fun name => (catalog.findScope? name).bind look) :
    Alike catalog catalog ⟨cases, first, fallback⟩ ⟨cases, second, fallback⟩ where
  settings := rfl
  name := rfl
  missingCase := by simp only [missingCase?, asked]
  missingScope := missing
  deciding message := by
    rw [deciding?_eq, deciding?_eq]
    simp only [namedGlobalCases, candidateScopeNames, asked]
    refine congrArg (Option.or _) ?_
    split
    · rw [List.findSome?_append, List.findSome?_append, found]
    · exact found Case _
  parsers query := by
    rw [resolve?_visibleScopes, resolve?_visibleScopes, List.findSome?_append,
      List.findSome?_append, found]
  fallback := rfl

/-- Where the global scope is requested, single cases need not be named. -/
theorem alike_of_ignoredCases {scopes : List String} (asked : globalName ∈ scopes) :
    Alike catalog catalog ⟨cases, scopes, fallback⟩ ⟨[], scopes, fallback⟩ where
  settings := rfl
  name := rfl
  missingCase := by simp only [missingCase?, asked, ↓reduceIte]
  missingScope := rfl
  deciding message := by
    simp only [deciding?_eq, namedGlobalCases, candidateScopeNames, asked, not_true_eq_false,
      and_false, ↓reduceIte]
  parsers _ := rfl
  fallback := rfl

/-- Where nothing is named of the global scope, all of it is requested last. -/
theorem alike_of_impliedGlobal {scopes : List String} (unasked : globalName ∉ scopes) :
    Alike catalog catalog ⟨[], scopes, fallback⟩ ⟨[], scopes ++ [globalName], fallback⟩ where
  settings := rfl
  name := rfl
  missingCase := by simp [missingCase?]
  missingScope := by simp [missingScope?]
  deciding message := by simp [deciding?_eq, namedGlobalCases, candidateScopeNames, unasked]
  parsers query := by
    rw [resolve?_visibleScopes, resolve?_visibleScopes,
      findSome?_repeated _ (List.mem_append_right scopes (List.mem_singleton_self globalName)),
      List.append_nil]
  fallback := rfl

/-- A case that is named a second time does not matter. -/
theorem alike_of_repeatedCase {before after scopes : List String} {name : String}
    (earlier : name ∈ before) :
    Alike catalog catalog ⟨before ++ name :: after, scopes, fallback⟩
      ⟨before ++ after, scopes, fallback⟩ where
  settings := rfl
  name := rfl
  missingCase := by simp only [missingCase?, find?_repeated _ earlier]
  missingScope := rfl
  deciding message := by
    -- Some case is still named, so that the global scope does not come in.
    have nonempty : before ≠ [] := List.ne_nil_of_mem earlier
    simp only [deciding?_eq, namedGlobalCases, candidateScopeNames, List.append_eq_nil_iff,
      nonempty, false_and, ↓reduceIte, ne_eq, not_false_eq_true, true_and]
    split
    · rw [List.find?_filterMap, List.find?_filterMap, find?_repeated _ earlier]
    · rfl
  parsers _ := rfl
  fallback := rfl

end Alike

/-- A step leaves all that an outcome depends on as it is. -/
theorem Rewrites.alike {catalog : Catalog} {first second : Selection}
    (rewrites : catalog.Rewrites first second) : Alike catalog catalog first second := by
  cases rewrites with
  | ignoredCases asked => exact alike_of_ignoredCases asked
  | impliedGlobal unasked => exact alike_of_impliedGlobal unasked
  | repeatedScope earlier =>
      refine alike_of_scopes (mem_repeated_iff earlier _) ?_ ?_
      · simp only [missingScope?, find?_repeated _ earlier]
      · intro β look
        exact findSome?_repeated _ earlier _
  | repeatedCase earlier => exact alike_of_repeatedCase earlier
  | missingScopes lenient =>
      refine alike_of_scopes ?_ ?_ ?_
      · rw [List.mem_filter]
        exact ⟨fun asked => ⟨asked, rfl⟩, fun both => both.1⟩
      · simp only [missingScope?, lenient, ↓reduceIte]
      · intro β look
        rw [← findSome?_existingScopes, ← findSome?_existingScopes, existingScopes_filter]

/-- **Selections that mean the same have the same outcomes.** Every input has the same outcome, a
report or an error with the same names in it, for any two selections that such steps lead from one
to the other, forwards or backwards. -/
theorem transform_eq_of_eqvGen (catalog : Catalog) (input : Input) (first second : Selection)
    (same : Relation.EqvGen catalog.Rewrites first second) :
    catalog.transform input first = catalog.transform input second := by
  induction same with
  | rel first second rewrites => exact rewrites.alike.transform_eq input
  | refl selection => rfl
  | symm first second _ ih => exact ih.symm
  | trans first middle last _ _ earlier later => exact earlier.trans later

/-- A catalog with cases for two letters, in which missing scopes count as empty. -/
def lenientCatalog : Catalog := { letterCatalog with settings := {} }

/-- Next to the global scope neither a case nor a scope that does not exist is an error, and the
global scope counts once: all of this can be left out of the selection. -/
theorem transform_eq_of_eqvGen_lenientCatalog :
    lenientCatalog.transform (.message "b")
        ⟨["nowhere"], ["global", "elsewhere", "global"], none⟩ =
      .ok ⟨"b", .positional [], [("original", .bool true)]⟩ := by
  have ignored : lenientCatalog.Rewrites ⟨["nowhere"], ["global", "elsewhere", "global"], none⟩
      ⟨[], ["global", "elsewhere", "global"], none⟩ := .ignoredCases List.mem_cons_self
  have repeated : lenientCatalog.Rewrites ⟨[], ["global", "elsewhere", "global"], none⟩
      ⟨[], ["global", "elsewhere"], none⟩ :=
    @Rewrites.repeatedScope _ [] ["global", "elsewhere"] [] none "global" List.mem_cons_self
  have missing : lenientCatalog.Rewrites ⟨[], ["global", "elsewhere"], none⟩
      ⟨[], ["global"], none⟩ := @Rewrites.missingScopes _ [] ["global", "elsewhere"] none rfl
  have implied : lenientCatalog.Rewrites ⟨[], [], none⟩ ⟨[], ["global"], none⟩ :=
    .impliedGlobal List.not_mem_nil
  have same : Relation.EqvGen lenientCatalog.Rewrites
      ⟨["nowhere"], ["global", "elsewhere", "global"], none⟩ ⟨[], [], none⟩ :=
    .trans _ _ _ (.rel _ _ ignored) (.trans _ _ _ (.rel _ _ repeated)
      (.trans _ _ _ (.rel _ _ missing) (.symm _ _ (.rel _ _ implied))))
  exact (transform_eq_of_eqvGen lenientCatalog (.message "b") _ _ same).trans rfl

end Catalog

end ErrorCatalog
