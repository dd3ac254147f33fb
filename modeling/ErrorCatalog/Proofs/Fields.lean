import ErrorCatalog.Proofs.Register
import ErrorCatalog.Value

/-!
# Laws of fields

Look-up in the fields of an object after one of them is written. An existing
field is replaced where it stands and a new one goes to its sorted place; for
look-up the place makes no difference (`Fields.find?_insert`).

When many fields are written one after the other, the last of a name is what is
read (`Fields.find?_extend`). Writing the same fields a second time changes
nothing, the order of the fields included (`Fields.extend_extend`).
-/

namespace ErrorCatalog

namespace Fields

@[simp] theorem find?_nil (name : String) : find? [] name = none := rfl

@[simp] theorem find?_cons (field : String × Value) (rest : Fields) (name : String) :
    find? (field :: rest) name = if field.1 = name then some field.2 else find? rest name := rfl

/-- Fields are overwritten like the entries of a register. -/
theorem overwrite_eq_insertEntry {fields : Fields} {name : String} (value : Value)
    (present : fields.contains name = true) :
    overwrite name value fields = Register.insertEntry name value fields := by
  induction fields with
  | nil => cases present
  | cons field rest ih =>
      rw [contains, find?_cons] at present
      by_cases here : field.1 = name
      · simp [overwrite, Register.insertEntry, here]
      · rw [if_neg here] at present
        simp [overwrite, Register.insertEntry, here, ih present]

/-- A field put at its place reads back its value if its name is new. -/
theorem find?_place {fields : Fields} {name : String} (query : String) (value : Value)
    (absent : find? fields name = none) :
    find? (place name value fields) query =
      if name = query then some value else find? fields query := by
  induction fields with
  | nil => rfl
  | cons field rest ih =>
      rw [find?_cons] at absent
      split at absent
      · cases absent
      · next apart =>
          rw [place]
          split
          · rfl
          · by_cases same : field.1 = query
            · subst same
              simp [Ne.symm apart]
            · simp [same, ih absent]

/-- A written field reads back its value, the others are untouched. -/
theorem find?_insert (fields : Fields) (name query : String) (value : Value) :
    find? (fields.insert name value) query =
      if name = query then some value else find? fields query := by
  rw [insert]
  split
  · next present =>
      rw [overwrite_eq_insertEntry value present]
      exact Register.findEntry?_insertEntry fields name query value
  · next missing =>
      exact find?_place query value (Option.not_isSome_iff_eq_none.mp missing)

/-- Of two values written over one field the later one stays. -/
theorem overwrite_overwrite (fields : Fields) (name : String) (earlier later : Value) :
    overwrite name later (overwrite name earlier fields) = overwrite name later fields := by
  induction fields with
  | nil => rfl
  | cons field rest ih =>
      by_cases here : field.1 = name
      · simp [overwrite, here]
      · simp [overwrite, here, ih]

/-- Fields of different names are overwritten in either order. -/
theorem overwrite_comm {name other : String} (apart : name ≠ other) (fields : Fields)
    (first second : Value) :
    overwrite other second (overwrite name first fields) =
      overwrite name first (overwrite other second fields) := by
  induction fields with
  | nil => rfl
  | cons field rest ih =>
      by_cases here : field.1 = name
      · simp [overwrite, here, apart]
      · by_cases there : field.1 = other
        · simp [overwrite, there, Ne.symm apart]
        · simp [overwrite, here, there, ih]

/-- A field is put at its place before or after another one is overwritten. -/
theorem place_overwrite {name other : String} (apart : name ≠ other) (fields : Fields)
    (first second : Value) :
    place other second (overwrite name first fields) =
      overwrite name first (place other second fields) := by
  induction fields with
  | nil => simp [place, overwrite, Ne.symm apart]
  | cons field rest ih =>
      by_cases here : field.1 = name
      · by_cases before : other < name <;> simp [place, overwrite, here, before, Ne.symm apart]
      · by_cases before : other < field.1
        · simp [place, overwrite, here, before, Ne.symm apart]
        · simp [place, overwrite, here, before, ih]

/-- A field that already holds a value does not change when it is written over by it. -/
theorem overwrite_of_find? {fields : Fields} {name : String} {value : Value}
    (found : find? fields name = some value) : overwrite name value fields = fields := by
  induction fields with
  | nil => cases found
  | cons field rest ih =>
      rw [find?_cons] at found
      by_cases here : field.1 = name
      · rw [if_pos here, Option.some.injEq] at found
        subst here found
        simp [overwrite]
      · rw [if_neg here] at found
        simp [overwrite, here, ih found]

/-- Writing a field adds its name and no other. -/
theorem contains_insert (fields : Fields) (name query : String) (value : Value) :
    (fields.insert name value).contains query =
      (decide (name = query) || fields.contains query) := by
  by_cases same : name = query <;> simp [contains, find?_insert, same]

/-- Writing the value that a field already has changes nothing. -/
theorem insert_of_find? {fields : Fields} {name : String} {value : Value}
    (found : find? fields name = some value) : fields.insert name value = fields := by
  have present : fields.contains name = true := by simp [contains, found]
  rw [insert, if_pos present, overwrite_of_find? found]

/-- Of two values written to one field the later one stays. -/
theorem insert_insert {fields : Fields} {name : String} (earlier later : Value)
    (present : fields.contains name = true) :
    (fields.insert name earlier).insert name later = fields.insert name later := by
  have still : (fields.insert name earlier).contains name = true := by simp [contains_insert]
  rw [insert, if_pos still, insert, if_pos present, insert, if_pos present, overwrite_overwrite]

/-- Fields of different names are written in either order if one of them is there before. -/
theorem insert_comm {fields : Fields} {name other : String} (first second : Value)
    (apart : name ≠ other) (present : fields.contains name = true) :
    (fields.insert name first).insert other second =
      (fields.insert other second).insert name first := by
  have still : (fields.insert other second).contains name = true := by
    simp [contains_insert, present]
  have same : (overwrite name first fields).contains other = fields.contains other := by
    have written := contains_insert fields name other first
    rwa [insert, if_pos present, decide_eq_false apart, Bool.false_or] at written
  rw [insert.eq_def (insert fields other second), if_pos still, insert.eq_def fields name,
    if_pos present, insert, insert, same]
  split
  · exact overwrite_comm apart fields first second
  · exact place_overwrite apart fields first second

section Extension

/-- Of two lists of fields the first one is searched first. -/
theorem find?_append (fields others : Fields) (name : String) :
    find? (fields ++ others) name = (find? fields name).or (find? others name) :=
  Register.findEntry?_append fields others name

@[simp] theorem extend_nil (fields : Fields) : fields.extend [] = fields := rfl

@[simp] theorem extend_cons (fields : Fields) (field : String × Value) (rest : Fields) :
    fields.extend (field :: rest) = (fields.insert field.1 field.2).extend rest := rfl

/-- Fields are written in two parts, one after the other. -/
theorem extend_append (fields first second : Fields) :
    fields.extend (first ++ second) = (fields.extend first).extend second :=
  List.foldl_append

/-- The last field written under a name is read back, the others are untouched. -/
theorem find?_extend (fields others : Fields) (name : String) :
    find? (fields.extend others) name =
      (find? others.reverse name).or (find? fields name) := by
  induction others generalizing fields with
  | nil => rfl
  | cons field rest ih =>
      rw [extend_cons, ih, find?_insert, List.reverse_cons, find?_append, Option.or_assoc]
      by_cases here : field.1 = name <;> simp [here]

/-- A field that is written over later need not be written before. -/
theorem extend_insert_of_mem {fields others : Fields} {name : String} (value : Value)
    (present : fields.contains name = true) (later : name ∈ others.map (·.1)) :
    (fields.insert name value).extend others = fields.extend others := by
  induction others generalizing fields with
  | nil => cases later
  | cons field rest ih =>
      rw [extend_cons, extend_cons]
      by_cases here : field.1 = name
      · rw [here, insert_insert value field.2 present]
      · have member : name ∈ rest.map (·.1) := by
          simpa [Ne.symm here] using later
        have still : (fields.insert field.1 field.2).contains name = true := by
          simp [contains_insert, present]
        rw [insert_comm value field.2 (Ne.symm here) present, ih still member]

/-- Fields that already hold what is written last under each name do not change. -/
theorem extend_of_agrees {fields others : Fields}
    (agrees : ∀ name value, find? others.reverse name = some value →
      find? fields name = some value) :
    fields.extend others = fields := by
  induction others with
  | nil => rfl
  | cons field rest ih =>
      have reversed (name : String) : find? (field :: rest).reverse name =
          (find? rest.reverse name).or (find? [field] name) := by
        rw [List.reverse_cons, find?_append]
      have rest_agrees : fields.extend rest = fields := by
        apply ih
        intro name value found
        apply agrees name value
        rw [reversed, found, Option.some_or]
      rw [extend_cons]
      cases last : find? rest.reverse field.1 with
      | none =>
          have kept : find? fields field.1 = some field.2 := by
            apply agrees
            rw [reversed, last, Option.none_or]
            simp
          rw [insert_of_find? kept, rest_agrees]
      | some value =>
          -- a later field of the name is written over this one
          have later : field.1 ∈ rest.map (·.1) := by
            have member := Register.findEntry?_mem last
            exact List.mem_map.mpr ⟨_, List.mem_reverse.mp member, rfl⟩
          have kept : find? fields field.1 = some value := by
            apply agrees
            rw [reversed, last, Option.some_or]
          have present : fields.contains field.1 = true := by simp [contains, kept]
          rw [extend_insert_of_mem field.2 present later, rest_agrees]

/-- Writing the same fields a second time changes nothing. -/
theorem extend_extend (fields others : Fields) :
    (fields.extend others).extend others = fields.extend others := by
  apply extend_of_agrees
  intro name value found
  rw [find?_extend, found, Option.some_or]

end Extension

end Fields

end ErrorCatalog
