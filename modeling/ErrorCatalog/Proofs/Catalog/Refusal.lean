import ErrorCatalog.Catalog.Names
import ErrorCatalog.Proofs.Catalog.Event

/-!
# Refused calls

Whether a call is refused, and with which error, can be told from the catalog
before the call (`Catalog.refusal?`). A call that is refused leaves the catalog
as it was, any other one has all of its effects (`Catalog.perform_eq`): nothing
is done by halves. So a registration that fails has not created its scope, and
a scope that may not be overwritten is still there
(`Catalog.perform_of_error`).
-/

namespace ErrorCatalog

namespace Scope

/-- The error of adding an item under a label, if the label is taken. -/
def clash? (scope : Scope) (label : Label) : Option Error :=
  if scope.holds label then some (scope.duplicate label) else none

/-- The error of removing the item of a label, if there is none. -/
def absence? (scope : Scope) (label : Label) : Option Error :=
  if scope.holds label then none else some (scope.notFound label)

end Scope

namespace Catalog

/-- The error with which a call is refused, if it is. -/
def refusal? (catalog : Catalog) : Call → Option Error
  | .register registration =>
      match registration.build catalog with
      | .error error => some error
      | .ok item => (catalog.scopeOrNew registration.target).clash? item.label
  | .insertScope scope overwrite =>
      if catalog.hasScope scope.name ∧ overwrite = false then some (.scopeExists scope.name)
      else if scope.name = globalName then some .globalScopeRemoval
      else none
  | .removeScope name => if name = globalName then some .globalScopeRemoval else none
  | .openScope _ => none
  | .addTo name item =>
      match catalog.findScope? name with
      | none => some (.scopeNotFound name)
      | some scope => scope.clash? item.label
  | .removeFrom name label =>
      match catalog.findScope? name with
      | none => some (.scopeNotFound name)
      | some scope => scope.absence? label

/-- The result of a call with a given refusal. -/
def answer : Option Error → Except Error Unit
  | some error => .error error
  | none => .ok ()

section Answers

variable (catalog : Catalog)

/-- A registration is refused as `refusal?` says. -/
theorem fst_register (registration : Registration) :
    (catalog.register registration).1 = answer (catalog.refusal? (.register registration)) := by
  rw [register_eq, refusal?]
  cases registration.build catalog with
  | error error => rfl
  | ok item =>
      cases taken : (catalog.scopeOrNew registration.target).holds item.label with
      | true => simp only [place_of_holds taken, Scope.clash?, taken, ↓reduceIte, answer]
      | false =>
          simp only [place_of_not_holds taken, Scope.clash?, taken, Bool.false_eq_true, ↓reduceIte,
            answer]

/-- Inserting a scope is refused as `refusal?` says. -/
theorem fst_insertScope (scope : Scope) (overwrite : Bool) :
    (catalog.insertScope scope overwrite).1 =
      answer (catalog.refusal? (.insertScope scope overwrite)) := by
  rw [insertScope_eq, refusal?]
  split
  · rfl
  · split <;> rfl

/-- Adding to a scope is refused as `refusal?` says. -/
theorem fst_addTo (name : String) (item : Item) :
    (catalog.perform (.addTo name item)).1 = answer (catalog.refusal? (.addTo name item)) := by
  rw [perform, refusal?]
  cases found : catalog.findScope? name with
  | none => rw [updateScope_of_absent _ found, answer]
  | some scope =>
      simp only [updateScope, getScope, found]
      cases taken : scope.holds item.label with
      | true => simp [Scope.add_of_holds taken, Scope.clash?, taken, Except.map, answer]
      | false => simp [Scope.add_of_not_holds taken, Scope.clash?, taken, Except.map, answer]

/-- Removing from a scope is refused as `refusal?` says. -/
theorem fst_removeFrom (name : String) (label : Label) :
    (catalog.perform (.removeFrom name label)).1 =
      answer (catalog.refusal? (.removeFrom name label)) := by
  rw [perform, refusal?]
  cases found : catalog.findScope? name with
  | none =>
      rw [updateScope_of_absent _ found]
      rfl
  | some scope =>
      simp only [updateScope, getScope, found]
      cases present : scope.holds label with
      | true =>
          obtain ⟨item, removed⟩ := Scope.remove_of_holds present
          simp [removed, Scope.absence?, present, Change.forget, Except.map, answer]
      | false =>
          simp [Scope.remove_of_not_holds present, Scope.absence?, present, Change.forget,
            Except.map, answer]

/-- A call fails exactly with the error that can be told beforehand. -/
theorem fst_perform (call : Call) :
    (catalog.perform call).1 = answer (catalog.refusal? call) := by
  cases call with
  | register registration => exact catalog.fst_register registration
  | insertScope scope overwrite => exact catalog.fst_insertScope scope overwrite
  | removeScope name =>
      rw [perform, removeScope, refusal?]
      split <;> rfl
  | openScope name => rfl
  | addTo name item => exact catalog.fst_addTo name item
  | removeFrom name label => exact catalog.fst_removeFrom name label

end Answers

/-- The events of a sequence determine the catalog that they lead to. -/
theorem Evolves.eq_foldl {catalog after : Catalog} {events : List Event}
    (evolves : Evolves catalog events after) : after = events.foldl apply catalog := by
  induction evolves with
  | nil catalog => rfl
  | cons admitted rest ih => exact ih

/-- A call is refused and changes nothing, or it succeeds and has all of its effects. -/
theorem perform_eq (catalog : Catalog) (call : Call) :
    catalog.perform call =
      match catalog.refusal? call with
      | some error => (.error error, catalog)
      | none => (.ok (), (catalog.effects call).foldl apply catalog) := by
  have answered := catalog.fst_perform call
  have after := (evolves_perform catalog call).eq_foldl
  rw [events, answered] at after
  cases refused : catalog.refusal? call with
  | some error =>
      rw [refused] at answered after
      exact Prod.ext answered after
  | none =>
      rw [refused] at answered after
      exact Prod.ext answered after

/-- **A call that fails changes nothing.** If a registration, the insertion or the removal of a
scope, or a change of one scope fails, the catalog afterwards is the one before, with all its
scopes and their content; and the error is the one that could be told from this catalog. -/
theorem perform_of_error (catalog : Catalog) (call : Call) (error : Error)
    (failed : (catalog.perform call).1 = .error error) :
    (catalog.perform call).2 = catalog ∧ catalog.refusal? call = some error := by
  rw [perform_eq] at failed ⊢
  cases refused : catalog.refusal? call with
  | some own =>
      rw [refused] at failed
      cases failed
      exact ⟨rfl, rfl⟩
  | none =>
      rw [refused] at failed
      cases failed

/-- A catalog with a parser in a scope of its own. -/
def stocked : Catalog :=
  (new {} .hexadecimal).run
    [.single (.register (.ofParser "p" (.function id) (some "a")))]

/-- A table without entries, for a scope that does not exist. -/
def emptyTable : Call := .register (.ofParser "q" (.table Register.empty) (some "b"))

/-- A scope in the place of an older one, which may not be overwritten. -/
def replacement : Call := .insertScope (Scope.new "a") false

/-- The one creates no scope, and the other does not drop the older one. -/
theorem perform_of_error_stocked :
    stocked.scopeNames = ["global", "a"] ∧
    (stocked.perform emptyTable).1 = .error (.emptyLookupTable "q") ∧
    (stocked.perform emptyTable).2 = stocked ∧
    (stocked.perform replacement).1 = .error (.scopeExists "a") ∧
    (stocked.perform replacement).2 = stocked :=
  ⟨by decide, rfl, (perform_of_error stocked emptyTable (.emptyLookupTable "q") rfl).1, rfl,
    (perform_of_error stocked replacement (.scopeExists "a") rfl).1⟩

end Catalog

end ErrorCatalog
