import ErrorCatalog.Catalog.Registration
import ErrorCatalog.Proofs.Register

/-!
# Items of scopes

A scope treats its cases and its parsers alike: each is entered under its own
name, refused when the name is taken, and removed by name. An `Item` is either
of them and a `Label` is the name of an item together with its kind, so that
every law about the content of scopes is stated once.

- `Scope.add_of_holds` and `Scope.add_of_not_holds` say when an item is refused
  and what an accepted one changes;
- `Catalog.place_of_holds` and `Catalog.place_of_not_holds` say the same of an
  item that is placed in a scope which may not exist yet;
- `Catalog.findScope?_putScope` and `Catalog.findScope?_withoutScope_of_ne` are
  the frame: what stands under the other names stays.
-/

namespace ErrorCatalog

/-- What a scope holds: a case or a parser. -/
inductive Item where
  | ofCase (value : Case)
  | ofParser (value : ValueParser)

/-- The name of an item in its scope. Cases and parsers do not share names. -/
inductive Label where
  | caseNamed (name : String)
  | parserNamed (name : String)
  deriving Repr, DecidableEq

namespace Item

/-- The label under which an item is entered. -/
def label : Item → Label
  | ofCase value => .caseNamed value.name
  | ofParser value => .parserNamed value.name

/-- The item, if it is a case. -/
def case? : Item → Option Case
  | ofCase value => some value
  | ofParser _ => none

/-- The item, if it is a parser. -/
def parser? : Item → Option ValueParser
  | ofCase _ => none
  | ofParser value => some value

end Item

namespace Scope

/-- Whether a scope has an item with a label. -/
def holds (scope : Scope) : Label → Bool
  | .caseNamed name => scope.hasCase name
  | .parserNamed name => scope.hasParser name

/-- The scope with an item entered under its name. -/
def append (scope : Scope) : Item → Scope
  | .ofCase value => { scope with cases := scope.cases.insert value.name value }
  | .ofParser value => { scope with parsers := scope.parsers.insert value.name value }

/-- The scope without the item of a label. -/
def without (scope : Scope) : Label → Scope
  | .caseNamed name => { scope with cases := scope.cases.erase name }
  | .parserNamed name => { scope with parsers := scope.parsers.erase name }

/-- Add an item, whose name must be new. -/
def add (scope : Scope) : Item → Except Error Scope
  | .ofCase value => scope.addCase value
  | .ofParser value => scope.addParser value

/-- Remove the item of a label, which must exist. -/
def remove (scope : Scope) : Label → Except Error (Item × Scope)
  | .caseNamed name => (scope.removeCase name).map fun removed => (.ofCase removed.1, removed.2)
  | .parserNamed name =>
      (scope.removeParser name).map fun removed => (.ofParser removed.1, removed.2)

/-- The error of adding an item whose label is taken. -/
def duplicate (scope : Scope) : Label → Error
  | .caseNamed name => .duplicateCase name scope.name
  | .parserNamed name => .duplicateParser name scope.name

/-- The error of removing an item that does not exist. -/
def notFound (scope : Scope) : Label → Error
  | .caseNamed name => .caseNotFound name scope.name
  | .parserNamed name => .parserNotFound name scope.name

@[simp] theorem name_append (scope : Scope) (item : Item) :
    (scope.append item).name = scope.name := by
  cases item <;> rfl

@[simp] theorem name_without (scope : Scope) (label : Label) :
    (scope.without label).name = scope.name := by
  cases label <;> rfl

@[simp] theorem holds_new (name : String) (label : Label) : (new name).holds label = false := by
  cases label <;> rfl

/-- A label that is taken is refused. -/
theorem add_of_holds {scope : Scope} {item : Item} (taken : scope.holds item.label = true) :
    scope.add item = .error (scope.duplicate item.label) := by
  cases item with
  | ofCase value => exact if_pos taken
  | ofParser value => exact if_pos taken

/-- An item with a free label goes to the end. -/
theorem add_of_not_holds {scope : Scope} {item : Item} (free : scope.holds item.label = false) :
    scope.add item = .ok (scope.append item) := by
  cases item with
  | ofCase value => exact if_neg (Bool.eq_false_iff.mp free)
  | ofParser value => exact if_neg (Bool.eq_false_iff.mp free)

/-- What stands under a label is removed. -/
theorem remove_of_holds {scope : Scope} {label : Label} (present : scope.holds label = true) :
    ∃ item, scope.remove label = .ok (item, scope.without label) := by
  cases label with
  | caseNamed name =>
      obtain ⟨found, same⟩ := Option.isSome_iff_exists.mp present
      exact ⟨.ofCase found, by simp [remove, removeCase, findCase?, same, Except.map, without]⟩
  | parserNamed name =>
      obtain ⟨found, same⟩ := Option.isSome_iff_exists.mp present
      exact ⟨.ofParser found, by
        simp [remove, removeParser, findParser?, same, Except.map, without]⟩

/-- A label that nothing stands under is refused. -/
theorem remove_of_not_holds {scope : Scope} {label : Label} (absent : scope.holds label = false) :
    scope.remove label = .error (scope.notFound label) := by
  cases label with
  | caseNamed name =>
      have missing := Option.isSome_eq_false_iff.mp absent
      rw [Option.isNone_iff_eq_none] at missing
      simp only [remove, removeCase, findCase?, missing, Except.map, notFound]
  | parserNamed name =>
      have missing := Option.isSome_eq_false_iff.mp absent
      rw [Option.isNone_iff_eq_none] at missing
      simp only [remove, removeParser, findParser?, missing, Except.map, notFound]

/-- A free case label is no name of a case. -/
theorem case_notMem_names {scope : Scope} {name : String}
    (free : scope.holds (.caseNamed name) = false) : name ∉ scope.cases.names :=
  (scope.cases.contains_eq_false_iff name).mp free

/-- A free parser label is no name of a parser. -/
theorem parser_notMem_names {scope : Scope} {name : String}
    (free : scope.holds (.parserNamed name) = false) : name ∉ scope.parsers.names :=
  (scope.parsers.contains_eq_false_iff name).mp free

end Scope

namespace Catalog

/-- A scope that is put is found, and the others are as before. -/
theorem findScope?_putScope (catalog : Catalog) (name query : String) (scope : Scope) :
    (catalog.putScope name scope).findScope? query =
      if name = query then some scope else catalog.findScope? query := by
  rw [putScope]
  split
  · next global =>
      subst global
      by_cases same : globalName = query
      · rw [if_pos same, findScope?, if_pos same.symm]
      · rw [if_neg same, findScope?, if_neg (Ne.symm same), findScope?, if_neg (Ne.symm same)]
  · next other =>
      by_cases asked : query = globalName
      · subst asked
        rw [if_neg other]
        rfl
      · rw [findScope?, if_neg asked, Register.find?_insert, findScope?, if_neg asked]

theorem findScope?_putScope_self (catalog : Catalog) (name : String) (scope : Scope) :
    (catalog.putScope name scope).findScope? name = some scope := by
  rw [findScope?_putScope, if_pos rfl]

/-- Putting a scope leaves the others. -/
theorem findScope?_putScope_of_ne (catalog : Catalog) {name query : String} (scope : Scope)
    (apart : name ≠ query) :
    (catalog.putScope name scope).findScope? query = catalog.findScope? query := by
  rw [findScope?_putScope, if_neg apart]

/-- Of two scopes put under one name the later one stays. -/
theorem putScope_putScope (catalog : Catalog) (name : String) (earlier later : Scope) :
    (catalog.putScope name earlier).putScope name later = catalog.putScope name later := by
  rw [putScope, putScope, putScope]
  split
  · rfl
  · rw [Register.insert_insert]

@[simp] theorem settings_putScope (catalog : Catalog) (name : String) (scope : Scope) :
    (catalog.putScope name scope).settings = catalog.settings := by
  rw [putScope]
  split <;> rfl

/-- The catalog without a scope. -/
def withoutScope (catalog : Catalog) (name : String) : Catalog :=
  { catalog with scopes := catalog.scopes.erase name }

/-- Removing a scope leaves the others. -/
theorem findScope?_withoutScope_of_ne (catalog : Catalog) {name query : String}
    (apart : query ≠ name) :
    (catalog.withoutScope name).findScope? query = catalog.findScope? query := by
  rw [findScope?, findScope?]
  split
  · rfl
  · exact Register.find?_erase_of_ne catalog.scopes apart

/-- Removing a scope that is missing changes nothing. -/
theorem withoutScope_of_absent {catalog : Catalog} {name : String}
    (absent : catalog.findScope? name = none) : catalog.withoutScope name = catalog := by
  rw [findScope?] at absent
  split at absent
  · cases absent
  · rw [withoutScope, Register.erase_of_notMem ((Register.find?_eq_none_iff _ _).mp absent)]

/-- Place an item in a scope, which is created if it does not exist. -/
def place (catalog : Catalog) (name : String) : Item → Change Unit
  | .ofCase value => catalog.placeCase name value
  | .ofParser value => catalog.placeParser name value

/-- An item is added to its scope, which is created if it is missing. -/
theorem place_eq (catalog : Catalog) (name : String) (item : Item) :
    catalog.place name item =
      match (catalog.scopeOrCreate name).1.add item with
      | .ok scope => (.ok (), (catalog.scopeOrCreate name).2.putScope name scope)
      | .error error => (.error error, (catalog.scopeOrCreate name).2) := by
  cases item <;> rfl

/-- The scope of a name, an empty one if it does not exist. -/
def scopeOrNew (catalog : Catalog) (name : String) : Scope :=
  (catalog.findScope? name).getD (Scope.new name)

/-- A scope that is found is used as it is. -/
theorem scopeOrNew_of_found {catalog : Catalog} {name : String} {scope : Scope}
    (found : catalog.findScope? name = some scope) : catalog.scopeOrNew name = scope := by
  rw [scopeOrNew, found, Option.getD_some]

/-- In place of a missing scope a new one is used. -/
theorem scopeOrNew_of_absent {catalog : Catalog} {name : String}
    (absent : catalog.findScope? name = none) : catalog.scopeOrNew name = Scope.new name := by
  rw [scopeOrNew, absent, Option.getD_none]

/-- A scope that exists is found as it is used. -/
theorem findScope?_eq_scopeOrNew (catalog : Catalog) (name : String) :
    catalog.findScope? name =
      if catalog.hasScope name then some (catalog.scopeOrNew name) else none := by
  cases found : catalog.findScope? name with
  | some scope => rw [hasScope, found, scopeOrNew_of_found found]; rfl
  | none => rw [hasScope, found]; rfl

theorem scopeOrCreate_fst (catalog : Catalog) (name : String) :
    (catalog.scopeOrCreate name).1 = catalog.scopeOrNew name := by
  rw [scopeOrCreate, scopeOrNew]
  cases catalog.findScope? name <;> rfl

/-- Nothing is created if the scope exists. -/
theorem scopeOrCreate_of_found {catalog : Catalog} {name : String} {scope : Scope}
    (found : catalog.findScope? name = some scope) :
    catalog.scopeOrCreate name = (scope, catalog) := by
  rw [scopeOrCreate, found]

/-- A missing scope is created empty. -/
theorem scopeOrCreate_of_absent {catalog : Catalog} {name : String}
    (absent : catalog.findScope? name = none) :
    catalog.scopeOrCreate name = (Scope.new name, catalog.putScope name (Scope.new name)) := by
  rw [scopeOrCreate, absent]

/-- An item whose label is taken is refused, and the catalog stays as it was: the scope is not
a new one. -/
theorem place_of_holds {catalog : Catalog} {name : String} {item : Item}
    (taken : (catalog.scopeOrNew name).holds item.label = true) :
    catalog.place name item =
      (.error ((catalog.scopeOrNew name).duplicate item.label), catalog) := by
  cases found : catalog.findScope? name with
  | none =>
      rw [scopeOrNew, found, Option.getD_none, Scope.holds_new] at taken
      exact absurd taken Bool.false_ne_true
  | some scope =>
      rw [scopeOrNew_of_found found] at taken
      rw [place_eq, scopeOrCreate_of_found found, Scope.add_of_holds taken,
        scopeOrNew_of_found found]

/-- An item with a free label is placed at the end of its scope. -/
theorem place_of_not_holds {catalog : Catalog} {name : String} {item : Item}
    (free : (catalog.scopeOrNew name).holds item.label = false) :
    catalog.place name item =
      (.ok (), catalog.putScope name ((catalog.scopeOrNew name).append item)) := by
  rw [place_eq, scopeOrCreate_fst, Scope.add_of_not_holds free]
  cases found : catalog.findScope? name with
  | some scope => rw [scopeOrCreate_of_found found]
  | none => simp only [scopeOrCreate_of_absent found, putScope_putScope]

end Catalog

end ErrorCatalog
