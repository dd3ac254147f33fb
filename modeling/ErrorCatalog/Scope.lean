import ErrorCatalog.Case

/-!
# Scopes

A scope holds cases and parsers under their own names, each in the order of
registration.
-/

namespace ErrorCatalog

/-- A named collection of cases and parsers. -/
structure Scope where
  name : String
  cases : Register Case := Register.empty
  parsers : Register ValueParser := Register.empty

namespace Scope

/-- The scope of a name with neither cases nor parsers. -/
def new (name : String) : Scope := { name }

/-- Whether the scope has a case of a name. -/
def hasCase (scope : Scope) (name : String) : Bool := scope.cases.contains name

/-- Whether the scope has a parser of a name. -/
def hasParser (scope : Scope) (name : String) : Bool := scope.parsers.contains name

/-- The case of a name. -/
def findCase? (scope : Scope) (name : String) : Option Case := scope.cases.find? name

/-- The parser of a name. -/
def findParser? (scope : Scope) (name : String) : Option ValueParser := scope.parsers.find? name

/-- The case of a name, which must exist. -/
def getCase (scope : Scope) (name : String) : Except Error Case :=
  match scope.findCase? name with
  | some found => .ok found
  | none => .error (.caseNotFound name scope.name)

/-- The parser of a name, which must exist. -/
def getParser (scope : Scope) (name : String) : Except Error ValueParser :=
  match scope.findParser? name with
  | some found => .ok found
  | none => .error (.parserNotFound name scope.name)

/-- Add a case under its own name, which must be new. -/
def addCase (scope : Scope) (added : Case) : Except Error Scope :=
  if scope.hasCase added.name then .error (.duplicateCase added.name scope.name)
  else .ok { scope with cases := scope.cases.insert added.name added }

/-- Add a parser under its own name, which must be new. -/
def addParser (scope : Scope) (added : ValueParser) : Except Error Scope :=
  if scope.hasParser added.name then .error (.duplicateParser added.name scope.name)
  else .ok { scope with parsers := scope.parsers.insert added.name added }

/-- Remove a case, which must exist; the others keep their order. -/
def removeCase (scope : Scope) (name : String) : Except Error (Case × Scope) :=
  match scope.findCase? name with
  | some found => .ok (found, { scope with cases := scope.cases.erase name })
  | none => .error (.caseNotFound name scope.name)

/-- Remove a parser, which must exist; the others keep their order. -/
def removeParser (scope : Scope) (name : String) : Except Error (ValueParser × Scope) :=
  match scope.findParser? name with
  | some found => .ok (found, { scope with parsers := scope.parsers.erase name })
  | none => .error (.parserNotFound name scope.name)

/-- The first parser of a name in a list of scopes. -/
def resolve? (scopes : List Scope) (name : String) : Option ValueParser :=
  scopes.findSome? fun scope => scope.findParser? name

end Scope

end ErrorCatalog
