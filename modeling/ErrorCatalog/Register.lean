/-!
# Registers

A register is a finite map from names to values which remembers the order in
which names were first entered. Scopes, cases, parsers, lookup tables and named
parameters are all kept this way.

- `Register.insert` replaces a value in place, or appends a new name;
- `Register.erase` removes a name and keeps the order of the others;
- `Register.find?` reads the first entry of a name.
-/

namespace ErrorCatalog

/-- Named values in the order of their first entry. -/
structure Register (α : Type u) where
  entries : List (String × α)
  deriving Repr, DecidableEq

namespace Register

variable {α : Type u} {β : Type v}

/-- The register without entries. -/
def empty : Register α := ⟨[]⟩

instance : Inhabited (Register α) := ⟨empty⟩

/-- The value of the first entry of `name`. -/
def findEntry? (name : String) : List (String × α) → Option α
  | [] => none
  | entry :: rest => if entry.1 = name then some entry.2 else findEntry? name rest

/-- The value of the first entry with the given name. -/
def find? (register : Register α) (name : String) : Option α :=
  findEntry? name register.entries

/-- Whether some entry has the given name. -/
def contains (register : Register α) (name : String) : Bool :=
  (register.find? name).isSome

/-- The names in order. -/
def names (register : Register α) : List String :=
  register.entries.map (·.1)

/-- The values in order. -/
def values (register : Register α) : List α :=
  register.entries.map (·.2)

/-- The number of entries. -/
def size (register : Register α) : Nat := register.entries.length

/-- Whether there are no entries. -/
def isEmpty (register : Register α) : Bool := register.entries.isEmpty

/-- Entry lists after writing `value` under `name`. -/
def insertEntry (name : String) (value : α) : List (String × α) → List (String × α)
  | [] => [(name, value)]
  | entry :: rest =>
      if entry.1 = name then (name, value) :: rest else entry :: insertEntry name value rest

/-- Write a value: an existing name keeps its place, a new one goes to the end. -/
def insert (register : Register α) (name : String) (value : α) : Register α :=
  ⟨insertEntry name value register.entries⟩

/-- Entry lists without the first entry of `name`. -/
def eraseEntry (name : String) : List (String × α) → List (String × α)
  | [] => []
  | entry :: rest => if entry.1 = name then rest else entry :: eraseEntry name rest

/-- Remove a name, keeping the order of the others. -/
def erase (register : Register α) (name : String) : Register α :=
  ⟨eraseEntry name register.entries⟩

/-- Enter a list of named values from left to right. -/
def ofList (entries : List (String × α)) : Register α :=
  entries.foldl (fun register entry => register.insert entry.1 entry.2) empty

/-- Apply a function to every value. -/
def map (f : α → β) (register : Register α) : Register β :=
  ⟨register.entries.map fun entry => (entry.1, f entry.2)⟩

@[simp] theorem find?_empty (name : String) : (empty : Register α).find? name = none := rfl

theorem findEntry?_insertEntry (entries : List (String × α)) (name query : String) (value : α) :
    findEntry? query (insertEntry name value entries) =
      if name = query then some value else findEntry? query entries := by
  induction entries with
  | nil => rfl
  | cons entry rest ih =>
      by_cases here : entry.1 = name
      · by_cases same : name = query <;> simp [insertEntry, findEntry?, here, same]
      · by_cases same : entry.1 = query
        · subst same
          simp [insertEntry, findEntry?, here, Ne.symm here]
        · simp [insertEntry, findEntry?, here, same, ih]

/-- A written name reads back its value, the others are untouched. -/
theorem find?_insert (register : Register α) (name query : String) (value : α) :
    (register.insert name value).find? query =
      if name = query then some value else register.find? query :=
  findEntry?_insertEntry register.entries name query value

theorem map_fst_insertEntry (entries : List (String × α)) (name : String) (value : α) :
    (insertEntry name value entries).map (·.1) =
      if name ∈ entries.map (·.1) then entries.map (·.1) else entries.map (·.1) ++ [name] := by
  induction entries with
  | nil => simp [insertEntry]
  | cons entry rest ih =>
      by_cases here : entry.1 = name
      · simp [insertEntry, here]
      · have apart : ¬ name = entry.1 := fun equal => here equal.symm
        simp only [insertEntry, here, ↓reduceIte, List.map_cons, ih, List.mem_cons, apart, false_or]
        by_cases member : name ∈ rest.map (·.1) <;> simp [member]

/-- Writing appends the name exactly when it is new. -/
theorem names_insert (register : Register α) (name : String) (value : α) :
    (register.insert name value).names =
      if name ∈ register.names then register.names else register.names ++ [name] :=
  map_fst_insertEntry register.entries name value

end Register

end ErrorCatalog
