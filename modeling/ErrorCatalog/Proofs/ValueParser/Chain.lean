import ErrorCatalog.Instruction
import ErrorCatalog.Proofs.Fields

/-!
# Chains of lookup tables

The first table of a chain that has an entry for a value makes an object of it,
which keeps the value under `raw`. So the tables behind look up the same key
(`LookupTable.key?_attach`), and the whole chain writes the entries for this key
over one base object (`ValueParser.parseAll_eq_foldl`).

- `Value.HasKey`: the key under which a value is looked up, kind by kind;
- `ValueParser.hits`: the entries which the tables of a chain hold for a value;
- `ValueParser.parseAll_of_tables`: the value that a chain of tables makes.
-/

namespace ErrorCatalog

/-! ## Keys -/

/-- The text of a scalar. -/
inductive Value.Spells : Value → String → Prop
  | string (text : String) : Spells (.string text) text
  | number (number : Number) : Spells (.number number) number.text
  | yes : Spells (.bool true) "true"
  | no : Spells (.bool false) "false"

/-- The key under which a value is looked up: the text of a scalar, or of the scalar in the field
`raw` of an object. -/
inductive Value.HasKey : Value → String → Prop
  | scalar {value : Value} {key : String} (spelled : value.Spells key) : HasKey value key
  | raw {fields : Fields} {inner : Value} {key : String}
      (found : Fields.find? fields "raw" = some inner) (spelled : inner.Spells key) :
      HasKey (.object fields) key

namespace LookupTable

/-- Scalars are looked up by their texts. -/
theorem scalarKey?_eq_some_iff (value : Value) (key : String) :
    scalarKey? value = some key ↔ value.Spells key := by
  constructor
  · intro spelled
    cases value with
    | string text => cases spelled; exact .string _
    | number number => cases spelled; exact .number number
    | bool flag =>
        cases flag with
        | true => cases spelled; exact .yes
        | false => cases spelled; exact .no
    | null => cases spelled
    | array items => cases spelled
    | object fields => cases spelled
  · intro spelled
    cases spelled <;> rfl

/-- Tables look up the key of a value. -/
theorem key?_eq_some_iff (value : Value) (key : String) :
    key? value = some key ↔ value.HasKey key := by
  constructor
  · intro looked
    cases value with
    | object fields =>
        obtain ⟨inner, found, spelled⟩ := Option.bind_eq_some_iff.mp looked
        exact .raw found ((scalarKey?_eq_some_iff inner key).mp spelled)
    | string text => exact .scalar ((scalarKey?_eq_some_iff _ key).mp looked)
    | number number => exact .scalar ((scalarKey?_eq_some_iff _ key).mp looked)
    | bool flag => exact .scalar ((scalarKey?_eq_some_iff _ key).mp looked)
    | null => cases looked
    | array items => cases looked
  · intro keyed
    cases keyed with
    | scalar spelled => cases spelled <;> rfl
    | raw found spelled =>
        exact Option.bind_eq_some_iff.mpr ⟨_, found, (scalarKey?_eq_some_iff _ key).mpr spelled⟩

/-- A value that is no object is kept under `raw`. -/
theorem base_of_ne_object {value : Value} (plain : ∀ fields, value ≠ .object fields) :
    base value = [("raw", value)] := by
  cases value with
  | object fields => exact absurd rfl (plain fields)
  | _ => rfl

/-! ## Entries -/

/-- A value with the fields of an entry written over it. -/
def attach (value : Value) (entry : Fields) : Value := .object (Fields.extend (base value) entry)

theorem base_attach (value : Value) (entry : Fields) :
    base (attach value entry) = Fields.extend (base value) entry := rfl

/-- A value and its base object are looked up by the same key. -/
theorem key?_object_base (value : Value) : key? (.object (base value)) = key? value := by
  cases value <;> rfl

/-- An entry without the field `raw` leaves the one of the base object. -/
theorem find?_attach_raw {entry : Fields} (value : Value)
    (plain : entry.contains rawField = false) :
    Fields.find? (base (attach value entry)) rawField = Fields.find? (base value) rawField := by
  have absent : Fields.find? entry.reverse rawField = none := by
    have missing : Fields.find? entry rawField = none := by simpa [Fields.contains] using plain
    refine (Register.findEntry?_eq_none_iff _ _).mpr ?_
    rw [List.map_reverse, List.mem_reverse]
    exact (Register.findEntry?_eq_none_iff _ _).mp missing
  rw [base_attach, Fields.find?_extend, absent, Option.none_or]

/-- An entry without the field `raw` leaves the key. -/
theorem key?_attach {entry : Fields} (value : Value)
    (plain : entry.contains rawField = false) : key? (attach value entry) = key? value := by
  have same : key? (attach value entry) = key? (.object (base value)) := by
    rw [attach, key?, key?, ← base_attach, find?_attach_raw value plain]
  rw [same, key?_object_base]

/-- Entries attached one after the other are attached at once. -/
theorem foldl_attach (value : Value) (entry : Fields) (entries : List Fields) :
    (entry :: entries).foldl attach value =
      .object (Fields.extend (base value) (entry :: entries).flatten) := by
  induction entries generalizing value entry with
  | nil => simp [attach]
  | cons next rest ih =>
      have step : (entry :: next :: rest).foldl attach value =
          (next :: rest).foldl attach (attach value entry) := rfl
      rw [step, ih, base_attach, ← Fields.extend_append]
      simp

end LookupTable

namespace ValueParser

open LookupTable

/-- The entry that a parser holds for the key of a value, if it is a table. -/
def entry? (parser : ValueParser) (value : Value) : Option Fields :=
  match parser.kind with
  | .function _ => none
  | .table entries => (key? value).bind entries.find?

/-- The value that parsers make of a value, one after the other. -/
def parseAll (parsers : List ValueParser) (value : Value) : Value :=
  parsers.foldl (fun parsed parser => parser.parse parsed) value

/-- The entries that the tables among some parsers hold for the key of a value, in order. -/
def hits (parsers : List ValueParser) (value : Value) : List Fields :=
  parsers.filterMap fun parser => parser.entry? value

/-- A table attaches the entry that it holds for a value. -/
theorem parse_of_isTable {parser : ValueParser} (table : parser.isTable = true) (value : Value) :
    parser.parse value = ((parser.entry? value).elim value (attach value)) := by
  obtain ⟨name, kind⟩ := parser
  cases kind with
  | function apply => cases table
  | table entries =>
      simp only [parse, entry?, LookupTable.apply]
      cases (key? value).bind entries.find? <;> rfl

/-- Only the key decides which entry a parser holds. -/
theorem entry?_eq_of_key? {value other : Value} (same : key? value = key? other)
    (parser : ValueParser) : parser.entry? value = parser.entry? other := by
  unfold entry?
  rw [same]

/-- Only the key decides which entries the tables of a chain hold. -/
theorem hits_eq_of_key? {value other : Value} (same : key? value = key? other)
    (parsers : List ValueParser) : hits parsers value = hits parsers other := by
  unfold hits
  rw [funext (entry?_eq_of_key? same)]

theorem hits_eq_nil_iff (parsers : List ValueParser) (value : Value) :
    hits parsers value = [] ↔ ∀ parser ∈ parsers, parser.entry? value = none :=
  List.filterMap_eq_nil_iff

/-- No parser holds an entry for a value without a key. -/
theorem entry?_eq_none_of_key? {value : Value} (keyless : key? value = none)
    (parser : ValueParser) : parser.entry? value = none := by
  unfold entry?
  split <;> simp [keyless]

/-- A parser holds an entry for a value if it is a table with an entry for the key of the value. -/
theorem entry?_eq_some_iff (parser : ValueParser) (value : Value) (entry : Fields) :
    parser.entry? value = some entry ↔
      ∃ entries key, parser.kind = .table entries ∧ value.HasKey key ∧
        entries.find? key = some entry := by
  obtain ⟨name, kind⟩ := parser
  unfold entry?
  cases kind with
  | function apply => simp
  | table entries =>
      rw [Option.bind_eq_some_iff]
      constructor
      · rintro ⟨key, looked, found⟩
        exact ⟨entries, key, rfl, (key?_eq_some_iff value key).mp looked, found⟩
      · rintro ⟨own, key, same, keyed, found⟩
        cases same
        exact ⟨key, (key?_eq_some_iff value key).mpr keyed, found⟩

/-- A chain of parsers applies one after the other and never fails. -/
theorem interpret_chain (locals : Register ValueParser) (resolve : String → Option ValueParser)
    (parsers : List ValueParser) (value : Value) :
    (Instruction.chain (parsers.map .parser)).interpret locals resolve value =
      .ok (parseAll parsers value) := by
  rw [Instruction.interpret]
  induction parsers generalizing value with
  | nil => rfl
  | cons parser rest ih =>
      rw [List.map_cons, Instruction.interpretAll, Instruction.interpret]
      exact ih (parser.parse value)

/-- Tables attach their entries for one key: that of the value from which the chain starts. -/
theorem parseAll_eq_foldl {parsers : List ValueParser} {value : Value}
    (tables : ∀ parser ∈ parsers, parser.isTable = true)
    (plain : ∀ entry ∈ hits parsers value, entry.contains rawField = false) :
    parseAll parsers value = (hits parsers value).foldl attach value := by
  induction parsers generalizing value with
  | nil => rfl
  | cons parser rest ih =>
      have others : ∀ parser ∈ rest, parser.isTable = true :=
        fun parser member => tables parser (List.mem_cons_of_mem _ member)
      have first : parseAll (parser :: rest) value = parseAll rest (parser.parse value) := rfl
      rw [first, parse_of_isTable (tables parser List.mem_cons_self) value]
      cases found : parser.entry? value with
      | none =>
          have missed : hits (parser :: rest) value = hits rest value := by simp [hits, found]
          rw [missed] at plain ⊢
          exact ih others plain
      | some entry =>
          have hit : hits (parser :: rest) value = entry :: hits rest value := by
            simp [hits, found]
          rw [hit] at plain ⊢
          -- The key is still that of the first value, so the other tables find the same entries.
          have key := key?_attach value (plain entry List.mem_cons_self)
          have same := hits_eq_of_key? key rest
          rw [Option.elim_some, ih others, same, List.foldl_cons]
          intro later member
          rw [same] at member
          exact plain later (List.mem_cons_of_mem _ member)

variable {parsers : List ValueParser} {value : Value}

/-- A chain with a hit writes all entries over one base object. -/
theorem parseAll_of_hits (tables : ∀ parser ∈ parsers, parser.isTable = true)
    (plain : ∀ entry ∈ hits parsers value, entry.contains rawField = false)
    (hit : hits parsers value ≠ []) :
    parseAll parsers value =
      .object (Fields.extend (base value) (hits parsers value).flatten) := by
  rw [parseAll_eq_foldl tables plain]
  obtain ⟨entry, entries, listed⟩ := List.exists_cons_of_ne_nil hit
  rw [listed, foldl_attach]

/-- A field that no entry has is not among all their fields. -/
theorem contains_flatten {entries : List Fields} {name : String}
    (absent : ∀ entry ∈ entries, entry.contains name = false) :
    Fields.contains entries.flatten name = false := by
  induction entries with
  | nil => rfl
  | cons entry rest ih =>
      have first := absent entry List.mem_cons_self
      have others := ih fun other member => absent other (List.mem_cons_of_mem _ member)
      simp only [Fields.contains, Option.isSome_eq_false_iff, Option.isNone_iff_eq_none] at *
      rw [List.flatten_cons, Fields.find?_append, first, others]
      rfl

/-- A chain leaves the field `raw` of the base object. -/
theorem find?_parseAll_raw (tables : ∀ parser ∈ parsers, parser.isTable = true)
    (plain : ∀ entry ∈ hits parsers value, entry.contains rawField = false) :
    Fields.find? (base (parseAll parsers value)) rawField =
      Fields.find? (base value) rawField := by
  by_cases missed : hits parsers value = []
  · rw [parseAll_eq_foldl tables plain, missed]
    rfl
  · rw [parseAll_of_hits tables plain missed]
    exact find?_attach_raw value (contains_flatten plain)

/-- A chain leaves the key of a value. -/
theorem key?_parseAll (tables : ∀ parser ∈ parsers, parser.isTable = true)
    (plain : ∀ entry ∈ hits parsers value, entry.contains rawField = false) :
    key? (parseAll parsers value) = key? value := by
  rw [← key?_object_base, key?, find?_parseAll_raw tables plain, ← key?, key?_object_base]

/-- A chain changes nothing in what it makes itself. -/
theorem parseAll_parseAll (tables : ∀ parser ∈ parsers, parser.isTable = true)
    (plain : ∀ entry ∈ hits parsers value, entry.contains rawField = false) :
    parseAll parsers (parseAll parsers value) = parseAll parsers value := by
  have same : hits parsers (parseAll parsers value) = hits parsers value :=
    hits_eq_of_key? (key?_parseAll tables plain) parsers
  have again : ∀ entry ∈ hits parsers (parseAll parsers value),
      entry.contains rawField = false := by
    rw [same]
    exact plain
  by_cases missed : hits parsers value = []
  · rw [parseAll_eq_foldl tables again, same, missed]
    rfl
  · rw [parseAll_of_hits tables again (same ▸ missed), same, parseAll_of_hits tables plain missed]
    exact congrArg Value.object (Fields.extend_extend _ _)

/-- **Chain law of lookup tables.** Let no table of a chain have a field `raw` in its entry for
the key of a value. The chain never fails. If the value has no key, or no table has an entry for
it, the value is unchanged; otherwise the entries of the tables that have one are written over
the base object in the order of the tables, so that the last field of a name wins, and the field
`raw` is that of the base object. Only the entries that are found matter, so that tables without
one may stand anywhere, and running the chain on its own result changes nothing. The key is the text
of a string, number or boolean, or of the one in the field `raw` of an object. The base object is
the value itself if it is an object, else it holds the value under `raw`. -/
theorem parseAll_of_tables (parsers : List ValueParser) (value : Value)
    (tables : ∀ parser ∈ parsers, parser.isTable = true)
    (plain : ∀ entry ∈ hits parsers value, entry.contains rawField = false) :
    (∀ locals resolve, (Instruction.chain (parsers.map .parser)).interpret locals resolve value =
      .ok (parseAll parsers value)) ∧
    (key? value = none ∨ (∀ parser ∈ parsers, parser.entry? value = none) →
      parseAll parsers value = value) ∧
    ((∃ parser ∈ parsers, parser.entry? value ≠ none) →
      parseAll parsers value =
        .object (Fields.extend (base value) (hits parsers value).flatten) ∧
      (∀ name, (parseAll parsers value).field? name =
        (Fields.find? (hits parsers value).flatten.reverse name).or
          (Fields.find? (base value) name)) ∧
      (parseAll parsers value).field? rawField = Fields.find? (base value) rawField) ∧
    (∀ others : List ValueParser, (∀ parser ∈ others, parser.isTable = true) →
      hits others value = hits parsers value →
      parseAll others value = parseAll parsers value) ∧
    parseAll parsers (parseAll parsers value) = parseAll parsers value ∧
    (∀ key, key? value = some key ↔ value.HasKey key) ∧
    (∀ (parser : ValueParser) (entry : Fields), parser.entry? value = some entry ↔
      ∃ entries key, parser.kind = .table entries ∧ value.HasKey key ∧
        entries.find? key = some entry) ∧
    (∀ fields, value = .object fields → base value = fields) ∧
    ((∀ fields, value ≠ .object fields) → base value = [("raw", value)]) := by
  refine ⟨fun locals resolve => interpret_chain locals resolve parsers value, ?_, ?_, ?_,
    parseAll_parseAll tables plain, key?_eq_some_iff value,
    fun parser entry => entry?_eq_some_iff parser value entry, ?_, base_of_ne_object⟩
  · intro missed
    have none : hits parsers value = [] := by
      rw [hits_eq_nil_iff]
      rcases missed with keyless | absent
      · exact fun parser _ => entry?_eq_none_of_key? keyless parser
      · exact absent
    rw [parseAll_eq_foldl tables plain, none]
    rfl
  · rintro ⟨parser, member, found⟩
    have hit : hits parsers value ≠ [] :=
      fun none => found ((hits_eq_nil_iff parsers value).mp none parser member)
    have raw := find?_parseAll_raw tables plain
    rw [parseAll_of_hits tables plain hit] at raw ⊢
    exact ⟨rfl, Fields.find?_extend (base value) (hits parsers value).flatten, raw⟩
  · intro others otherTables same
    rw [parseAll_eq_foldl tables plain, parseAll_eq_foldl otherTables (same ▸ plain), same]
  · rintro fields rfl
    rfl

/-- A table on the codes of a status. -/
def statusTable (name : String) (entries : List (String × Fields)) : ValueParser :=
  ⟨name, .table (Register.ofList entries)⟩

/-- Three tables: the first one has no entry for 404, the last one has one for a boolean, too. -/
def statusTables : List ValueParser :=
  [statusTable "retries" [("503", [("retry", .bool true)])],
    statusTable "names" [("404", [("level", .string "warning"), ("title", .string "Not found")])],
    statusTable "levels" [("404", [("level", .string "info")]), ("true", [("level", .null)])]]

/-- A value of every kind that has a key, an object that was looked up before, and an array. -/
def statuses : List Value :=
  [.int 404, .string "404", .bool true, .object [("code", .int 1), ("raw", .string "404")],
    .array [.string "404"]]

/-- Whatever is looked up is kept in its own type, and the later table wins. The other fields of an
object stay, and a value without a key passes. -/
theorem parseAll_of_tables_status :
    (∀ parser ∈ statusTables, parser.isTable = true) ∧
    (∀ value ∈ statuses, ∀ entry ∈ hits statusTables value, entry.contains rawField = false) ∧
    parseAll statusTables (.int 404) =
      .object [("level", .string "info"), ("raw", .int 404), ("title", .string "Not found")] ∧
    parseAll statusTables (parseAll statusTables (.int 404)) =
      parseAll statusTables (.int 404) ∧
    parseAll statusTables (.string "404") =
      .object [("level", .string "info"), ("raw", .string "404"),
        ("title", .string "Not found")] ∧
    parseAll statusTables (.bool true) = .object [("level", .null), ("raw", .bool true)] ∧
    parseAll statusTables (.object [("code", .int 1), ("raw", .string "404")]) =
      .object [("code", .int 1), ("level", .string "info"), ("raw", .string "404"),
        ("title", .string "Not found")] ∧
    parseAll statusTables (.array [.string "404"]) = .array [.string "404"] := by
  have tables : ∀ parser ∈ statusTables, parser.isTable = true := by decide
  have plain : ∀ value ∈ statuses, ∀ entry ∈ hits statusTables value,
      entry.contains rawField = false := by decide
  have law (value : Value) (member : value ∈ statuses) :=
    parseAll_of_tables statusTables value tables (plain value member)
  have number := law (.int 404) (by simp [statuses])
  have text := law (.string "404") (by simp [statuses])
  have flag := law (.bool true) (by simp [statuses])
  have object := law (.object [("code", .int 1), ("raw", .string "404")]) (by simp [statuses])
  have array := law (.array [.string "404"]) (by simp [statuses])
  exact ⟨tables, plain, (number.2.2.1 (by decide)).1.trans rfl, number.2.2.2.2.1,
    (text.2.2.1 (by decide)).1.trans rfl, (flag.2.2.1 (by decide)).1.trans rfl,
    (object.2.2.1 (by decide)).1.trans rfl, array.2.1 (.inl rfl)⟩

end ValueParser

end ErrorCatalog
