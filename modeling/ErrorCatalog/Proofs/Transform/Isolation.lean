import ErrorCatalog.Proofs.Transform.Agreement

/-!
# Scopes that are not selected

What is done to a scope that a selection does not name has no influence on
transformations with this selection, unless it is the global scope, which is
always seen.

- `Catalog.indistinguishable_run`: a selection cannot tell the catalog before a
  run from the one after it if the run avoids all the scopes that it sees;
- `Catalog.transform_run_of_unselected`: the law for runs on one other scope.
-/

namespace ErrorCatalog

namespace Catalog

/-- All calls of an operation are addressed to one scope. -/
def Operation.AddressedTo (operation : Operation) (name : String) : Prop :=
  ∀ call, .ok call ∈ operation.calls → call.target = name

/-- An operation on one scope avoids the others. -/
theorem Operation.AddressedTo.avoids {operation : Operation} {name other : String}
    (addressed : operation.AddressedTo name) (apart : name ≠ other) : operation.Avoids other := by
  intro call member same
  exact apart ((addressed call member).symm.trans same)

/-- A run that avoids the global scope and the selected ones changes nothing that the selection
can tell. -/
theorem indistinguishable_run (catalog : Catalog) {operations : List Operation}
    {selection : Selection} (global : ∀ operation ∈ operations, operation.Avoids globalName)
    (selected : ∀ name ∈ selection.scopes, ∀ operation ∈ operations, operation.Avoids name) :
    Indistinguishable selection (catalog.run operations) catalog := by
  have kept : ∀ name ∈ selection.scopes,
      (catalog.run operations).findScope? name = catalog.findScope? name :=
    fun name member => findScope?_run_of_avoids catalog (selected name member)
  have same : (catalog.run operations).global = catalog.global :=
    Option.some.inj (findScope?_run_of_avoids catalog global)
  constructor
  · exact (evolves_run catalog operations).settings_eq
  · rw [same]
  · intro name member
    rw [kept name member]
  · intro name member query
    rw [kept name member]

/-- **Scopes that are not selected have no influence.** Let operations be addressed to one scope,
not the global one: it may be created, changed, overwritten and removed, and operations may fail.
Every input has the same outcome after these operations as before, a report or an error, for every
selection that does not name the scope, whether missing scopes count as empty or not. More
generally, so it has in any two catalogs that the selection cannot tell apart. -/
theorem transform_run_of_unselected (input : Input) (selection : Selection) :
    (∀ (catalog : Catalog) (name : String) (operations : List Operation),
      name ≠ globalName → name ∉ selection.scopes →
      (∀ operation ∈ operations, operation.AddressedTo name) →
      (catalog.run operations).transform input selection = catalog.transform input selection) ∧
    (∀ left right : Catalog, Indistinguishable selection left right →
      left.transform input selection = right.transform input selection) := by
  constructor
  · intro catalog name operations other unselected addressed
    refine (catalog.indistinguishable_run ?_ ?_).transform_eq input
    · intro operation member
      exact (addressed operation member).avoids other
    · intro selected listed operation member
      refine (addressed operation member).avoids ?_
      rintro rfl
      exact unselected listed
  · intro left right same
    exact same.transform_eq input

/-- A scope gets a parser and a case for the letter `c`, is overwritten, and gets the case again,
which is then registered a second time in vain. -/
def elsewhere : List Operation :=
  [.single (.register (.ofParser "p" (.function id) (some "b"))),
    .single (.addTo "b" (.ofCase (keeping "c" 'c'))),
    .addScope "b" [] true,
    .single (.addTo "b" (.ofCase (keeping "c" 'c'))),
    .single (.addTo "b" (.ofCase (keeping "c" 'c')))]

/-- All these operations are on the scope b. -/
theorem addressedTo_elsewhere : ∀ operation ∈ elsewhere, operation.AddressedTo "b" := by
  intro operation member call listed
  simp only [elsewhere, List.mem_cons, List.not_mem_nil, or_false] at member
  rcases member with rfl | rfl | rfl | rfl | rfl <;>
    cases List.mem_singleton.mp listed <;> rfl

/-- The new scope has a case for the message, which still falls back when the scope is not
selected; and a catalog in which its scopes stand in another order is no different. -/
theorem transform_run_of_unselected_elsewhere :
    (letterCatalog.run elsewhere).scopeNames = ["global", "b"] ∧
    (letterCatalog.run elsewhere).transform (.message "c") letterSelection =
      .ok ⟨"unknown", .named Register.empty, [("fallback", .bool true)]⟩ ∧
    (letterCatalog.run elsewhere).transform (.message "c") { scopes := ["b"] } =
      ((letterCatalog.run [.single (.openScope "d")]).run elsewhere).transform (.message "c")
        { scopes := ["b"] } := by
  refine ⟨by decide, ?_, ?_⟩
  · exact ((transform_run_of_unselected (.message "c") letterSelection).1 letterCatalog "b"
      elsewhere (by decide) (by decide) addressedTo_elsewhere).trans rfl
  · refine (transform_run_of_unselected (.message "c") { scopes := ["b"] }).2 _ _ ?_
    constructor
    · rfl
    · rfl
    · intro name member
      cases List.mem_singleton.mp member
      rfl
    · intro name member query
      cases List.mem_singleton.mp member
      rfl

end Catalog

end ErrorCatalog
