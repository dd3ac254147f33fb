import ErrorCatalog.Catalog

/-!
# Registration

Cases and parsers are registered into a scope, which is created when it does
not exist yet. A case goes to the scope that its definition names, else to the
scope of the call, else to the global scope.

Everything that is wrong with a definition is found before its scope is
created, so that a failed registration leaves the catalog as it was.
-/

namespace ErrorCatalog

/-- A condition for messages that are kept as they are. -/
structure Passthrough where
  /-- The name of the case, if it is to have one of its own. -/
  name : Option String := none
  condition : ConditionSpec
  /-- The scope that the case belongs to, if it names one. -/
  scope : Option String := none
  origin : Origin := default

namespace Catalog

/-- The scope for a definition: its own, else the one of the call, else the global one. -/
def targetName (own call : Option String) : String := (own.or call).getD globalName

/-- Register a compiled case in a scope. -/
def placeCase (catalog : Catalog) (name : String) (compiled : Case) : Change Unit :=
  let (scope, catalog) := catalog.scopeOrCreate name
  match scope.addCase compiled with
  | .ok scope => (.ok (), catalog.putScope name scope)
  | .error error => (.error error, catalog)

/-- Register a parser in a scope. -/
def placeParser (catalog : Catalog) (name : String) (parser : ValueParser) : Change Unit :=
  let (scope, catalog) := catalog.scopeOrCreate name
  match scope.addParser parser with
  | .ok scope => (.ok (), catalog.putScope name scope)
  | .error error => (.error error, catalog)

/-- Compile and register a case. -/
def addCase (catalog : Catalog) (definition : CaseDefinition) (scope : Option String) :
    Change Unit :=
  match Case.compile definition with
  | .ok compiled => catalog.placeCase (targetName definition.scope scope) compiled
  | .error error => (.error error, catalog)

/-- Register cases in order, up to the first failure. -/
def addCases (catalog : Catalog) (definitions : List CaseDefinition) (scope : Option String) :
    Change Unit :=
  catalog.changeAll (fun catalog definition => catalog.addCase definition scope) definitions

/-- Build and register a parser. -/
def addParser (catalog : Catalog) (name : String) (source : ParserSource)
    (scope : Option String) : Change Unit :=
  match ValueParser.ofSource? name source with
  | .ok parser => catalog.placeParser (targetName none scope) parser
  | .error error => (.error error, catalog)

/-- The first of some proposals that is not taken, in at most `fuel` steps. -/
def firstFree (proposals : NameSource) (taken : String → Bool) : Nat → Nat → String
  | 0, index => proposals.name index
  | fuel + 1, index =>
      if taken (proposals.name index) then firstFree proposals taken fuel (index + 1)
      else proposals.name index

/-- A name that no case of a scope has. As many proposals as there are cases can be taken. -/
def freshName (catalog : Catalog) (scope : String) : String :=
  match catalog.findScope? scope with
  | none => catalog.proposals.name 0
  | some scope => firstFree catalog.proposals scope.hasCase scope.cases.size 0

/-- The definition of the case that keeps messages. -/
def passthroughDefinition (catalog : Catalog) (passthrough : Passthrough)
    (scope : Option String) : CaseDefinition :=
  let target := targetName passthrough.scope scope
  { name := passthrough.name.getD (catalog.freshName target)
    condition := passthrough.condition
    keepsMessage := true
    scope := some target
    origin := passthrough.origin }

/-- Register a case that keeps messages, under a fresh name if it has none. -/
def addPassthrough (catalog : Catalog) (passthrough : Passthrough) (scope : Option String) :
    Change Unit :=
  catalog.addCase (catalog.passthroughDefinition passthrough scope) none

/-- Register cases that keep messages in order, up to the first failure. -/
def addPassthroughs (catalog : Catalog) (passthroughs : List Passthrough)
    (scope : Option String) : Change Unit :=
  catalog.changeAll (fun catalog passthrough => catalog.addPassthrough passthrough scope)
    passthroughs

/-- Add a new scope and register cases, in this scope unless they name another. -/
def addScope (catalog : Catalog) (name : String) (definitions : List CaseDefinition)
    (overwrite : Bool) : Change Unit :=
  match catalog.insertScope (Scope.new name) overwrite with
  | (.ok _, catalog) => catalog.addCases definitions (some name)
  | (.error error, catalog) => (.error error, catalog)

end Catalog

end ErrorCatalog
