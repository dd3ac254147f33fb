import ErrorCatalog.Scope
import ErrorCatalog.Settings

/-!
# Catalogs

A catalog is the whole collection of scopes: the global scope, which always
exists, and the others in the order of their creation.

An operation that changes a catalog returns the catalog afterwards together
with its result, also when it fails.
-/

namespace ErrorCatalog

/-- Where names for unnamed cases come from: an endless supply of different names. -/
structure NameSource where
  name : Nat → String
  nonempty : ∀ index, name index ≠ ""
  injective : ∀ left right, name left = name right → left = right

/-- The scopes of an application. -/
structure Catalog where
  settings : Settings
  global : Scope
  scopes : Register Scope
  proposals : NameSource

/-- The result of a change and the catalog after it. -/
abbrev Catalog.Change (α : Type) := Except Error α × Catalog

namespace Catalog

/-- The name of the global scope. -/
def globalName : String := "global"

/-- A catalog with an empty global scope. -/
def new (settings : Settings) (proposals : NameSource) : Catalog where
  settings := settings
  global := Scope.new globalName
  scopes := Register.empty
  proposals := proposals

/-- The scope of a name. -/
def findScope? (catalog : Catalog) (name : String) : Option Scope :=
  if name = globalName then some catalog.global else catalog.scopes.find? name

/-- Whether there is a scope of a name. -/
def hasScope (catalog : Catalog) (name : String) : Bool := (catalog.findScope? name).isSome

/-- The scope of a name, which must exist. -/
def getScope (catalog : Catalog) (name : String) : Except Error Scope :=
  match catalog.findScope? name with
  | some scope => .ok scope
  | none => .error (.scopeNotFound name)

/-- The names of all scopes, the global one first. -/
def scopeNames (catalog : Catalog) : List String := globalName :: catalog.scopes.names

/-- Put a scope in the place of the one of the same name. -/
def putScope (catalog : Catalog) (name : String) (scope : Scope) : Catalog :=
  if name = globalName then { catalog with global := scope }
  else { catalog with scopes := catalog.scopes.insert name scope }

/-- The scope of a name, created if it does not exist, and the catalog with it. -/
def scopeOrCreate (catalog : Catalog) (name : String) : Scope × Catalog :=
  match catalog.findScope? name with
  | some scope => (scope, catalog)
  | none => (Scope.new name, catalog.putScope name (Scope.new name))

/-- Change the scope of a name, which must exist; a failing change leaves it as it was. -/
def updateScope {α : Type} (catalog : Catalog) (name : String)
    (change : Scope → Except Error (α × Scope)) : Change α :=
  match catalog.getScope name with
  | .error error => (.error error, catalog)
  | .ok scope =>
      match change scope with
      | .error error => (.error error, catalog)
      | .ok (result, scope) => (.ok result, catalog.putScope name scope)

/-- Remove a scope, if it exists; the others keep their order. The global scope stays. -/
def removeScope (catalog : Catalog) (name : String) : Change (Option Scope) :=
  if name = globalName then (.error .globalScopeRemoval, catalog)
  else (.ok (catalog.scopes.find? name), { catalog with scopes := catalog.scopes.erase name })

/-- Add a scope as the last one. A scope of the same name is in the way, unless it may be
overwritten and is not the global one. -/
def insertScope (catalog : Catalog) (scope : Scope) (overwrite : Bool) : Change Unit :=
  if catalog.hasScope scope.name then
    if overwrite then
      match catalog.removeScope scope.name with
      | (.error error, catalog) => (.error error, catalog)
      | (.ok _, catalog) => (.ok (), catalog.putScope scope.name scope)
    else (.error (.scopeExists scope.name), catalog)
  else (.ok (), catalog.putScope scope.name scope)

/-- Apply a change for each item of a list, up to the first failure. -/
def changeAll {α : Type} (change : Catalog → α → Change Unit) (catalog : Catalog) :
    List α → Change Unit
  | [] => (.ok (), catalog)
  | item :: rest =>
      match change catalog item with
      | (.ok _, catalog) => changeAll change catalog rest
      | (.error error, catalog) => (.error error, catalog)

end Catalog

end ErrorCatalog
