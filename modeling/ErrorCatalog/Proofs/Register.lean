import Mathlib.Data.List.Find
import ErrorCatalog.Register

/-!
# Laws of registers

Look-up, names and values of a register after one entry is written or removed.

A register is kept under a key when each of its values stands under a name that
the value itself determines, and no name stands twice
(`Register.KeyedBy`). Writing a new value under its key and removing a name
keep a register so (`Register.KeyedBy.insert`, `Register.KeyedBy.erase`), and
its entries are then read off its values (`Register.KeyedBy.entries_eq`).
-/

namespace ErrorCatalog

namespace Register

variable {α : Type u}

/-- Nothing is found under a name exactly if no entry has it. -/
theorem findEntry?_eq_none_iff (entries : List (String × α)) (name : String) :
    findEntry? name entries = none ↔ name ∉ entries.map (·.1) := by
  induction entries with
  | nil => simp [ findEntry?]
  | cons entry rest ih =>
      by_cases here : entry.1 = name
      · simp [here, findEntry?]
      · simp [here, findEntry?, Ne.symm here, ih]

theorem find?_eq_none_iff (register : Register α) (name : String) :
    register.find? name = none ↔ name ∉ register.names :=
  findEntry?_eq_none_iff register.entries name

/-- A register contains its names. -/
theorem contains_eq_true_iff (register : Register α) (name : String) :
    register.contains name = true ↔ name ∈ register.names := by
  rw [contains, Option.isSome_iff_ne_none, ne_eq, find?_eq_none_iff]
  exact Decidable.not_not

theorem contains_eq_false_iff (register : Register α) (name : String) :
    register.contains name = false ↔ name ∉ register.names := by
  rw [← contains_eq_true_iff, Bool.not_eq_true]

/-- What is found under a name stands there. -/
theorem findEntry?_mem {entries : List (String × α)} {name : String} {value : α}
    (found : findEntry? name entries = some value) : (name, value) ∈ entries := by
  induction entries with
  | nil => simp [ findEntry?] at found
  | cons entry rest ih =>
      by_cases here : entry.1 = name
      · simp only [here, findEntry?, ↓reduceIte, Option.some.injEq] at found
        subst here found
        exact List.mem_cons_self
      · simp only [here, findEntry?, ↓reduceIte] at found
        exact List.mem_cons_of_mem _ (ih found)

/-- What is looked up is an entry of the register. -/
theorem mem_entries_of_find? {register : Register α} {name : String} {value : α}
    (found : register.find? name = some value) : (name, value) ∈ register.entries :=
  findEntry?_mem found

theorem mem_values_of_find? {register : Register α} {name : String} {value : α}
    (found : register.find? name = some value) : value ∈ register.values :=
  List.mem_map.mpr ⟨(name, value), mem_entries_of_find? found, rfl⟩

/-- An entry under a new name goes to the end. -/
theorem insertEntry_of_notMem {entries : List (String × α)} {name : String} (value : α)
    (absent : name ∉ entries.map (·.1)) :
    insertEntry name value entries = entries ++ [(name, value)] := by
  induction entries with
  | nil => rfl
  | cons entry rest ih =>
      simp only [List.map_cons, List.mem_cons, not_or] at absent
      simp [insertEntry, Ne.symm absent.1, ih absent.2]

/-- A value under a new name becomes the last entry. -/
theorem entries_insert_of_notMem {register : Register α} {name : String} (value : α)
    (absent : name ∉ register.names) :
    (register.insert name value).entries = register.entries ++ [(name, value)] :=
  insertEntry_of_notMem value absent

/-- Values entered under different new names are appended in order. -/
theorem entries_foldl_insert (register : Register α) (entries : List (String × α))
    (distinct : (register.names ++ entries.map (·.1)).Nodup) :
    (entries.foldl (fun register entry => register.insert entry.1 entry.2) register).entries =
      register.entries ++ entries := by
  induction entries generalizing register with
  | nil => exact (List.append_nil _).symm
  | cons entry rest ih =>
      have absent : entry.1 ∉ register.names := by
        intro member
        have apart := (List.nodup_append.mp distinct).2.2
        exact apart entry.1 member entry.1 List.mem_cons_self rfl
      have names : (register.insert entry.1 entry.2).names = register.names ++ [entry.1] := by
        rw [names_insert, if_neg absent]
      rw [List.foldl_cons, ih, entries_insert_of_notMem entry.2 absent, List.append_assoc]
      · rfl
      · rwa [names, List.append_assoc]

/-- A register built from entries under different names has just these entries. -/
theorem entries_ofList {entries : List (String × α)} (distinct : (entries.map (·.1)).Nodup) :
    (ofList entries).entries = entries :=
  entries_foldl_insert empty entries distinct

/-- Values entered in turn add the names that are new, each where it is entered first. -/
theorem names_foldl_insert (register : Register α) (entries : List (String × α)) :
    (entries.foldl (fun register entry => register.insert entry.1 entry.2) register).names =
      register.names ++
        ((entries.map (·.1)).filter fun name => !register.names.contains name).eraseDups := by
  induction entries generalizing register with
  | nil => exact (List.append_nil _).symm
  | cons entry rest ih =>
      rw [List.foldl_cons, ih, names_insert, List.map_cons]
      by_cases known : entry.1 ∈ register.names
      · simp [known]
      · -- The name is new, and from now on it does not count as new again.
        have fewer : ∀ name, (!(register.names ++ [entry.1]).contains name) =
            (!(name == entry.1) && !register.names.contains name) := by
          intro name
          rw [List.contains_append, Bool.not_or, Bool.and_comm, List.contains_cons,
            List.contains_nil, Bool.or_false]
        have new : (!register.names.contains entry.1) = true := by simp [known]
        rw [if_neg known, List.append_assoc, List.singleton_append, List.filter_congr fun name _ =>
          fewer name, List.filter_cons, if_pos new, List.eraseDups_cons, List.filter_filter]

theorem names_ofList (entries : List (String × α)) :
    (ofList entries).names = (entries.map (·.1)).eraseDups := by
  have names := names_foldl_insert (empty : Register α) entries
  have all : (entries.map (·.1)).filter (fun name => !(empty : Register α).names.contains name) =
      entries.map (·.1) := List.filter_eq_self.mpr fun _ _ => rfl
  rw [all] at names
  exact names

theorem findEntry?_append (first second : List (String × α)) (name : String) :
    findEntry? name (first ++ second) =
      (Register.findEntry? name first).or (Register.findEntry? name second) := by
  induction first with
  | nil => rfl
  | cons entry rest ih =>
      by_cases here : entry.1 = name <;> simp [here, findEntry?, ih]

/-- Of the values entered in turn under a name the last one is read back. -/
theorem find?_foldl_insert (register : Register α) (entries : List (String × α))
    (name : String) :
    (entries.foldl (fun register entry => register.insert entry.1 entry.2) register).find? name =
      (Register.findEntry? name entries.reverse).or (register.find? name) := by
  induction entries generalizing register with
  | nil => rfl
  | cons entry rest ih =>
      rw [List.foldl_cons, ih, find?_insert, List.reverse_cons, findEntry?_append, Option.or_assoc]
      by_cases here : entry.1 = name <;> simp [here, findEntry?]

/-- A register built from entries has the last value of each name. -/
theorem find?_ofList (entries : List (String × α)) (name : String) :
    (ofList entries).find? name = findEntry? name entries.reverse := by
  rw [ofList, find?_foldl_insert, find?_empty, Option.or_none]

/-- Writing a value keeps the names distinct. -/
theorem nodup_names_insert {register : Register α} (distinct : register.names.Nodup)
    (name : String) (value : α) : (register.insert name value).names.Nodup := by
  rw [names_insert]
  split
  · exact distinct
  · next absent =>
      rw [List.nodup_append]
      refine ⟨distinct, List.pairwise_singleton _ _, ?_⟩
      intro left earlier right last same
      rw [List.mem_singleton] at last
      exact absent (last ▸ same ▸ earlier)

/-- Writing values in turn keeps the names distinct. -/
theorem nodup_names_foldl_insert {register : Register α} (distinct : register.names.Nodup)
    (entries : List (String × α)) :
    (entries.foldl (fun register entry => register.insert entry.1 entry.2)
      register).names.Nodup := by
  induction entries generalizing register with
  | nil => exact distinct
  | cons entry rest ih => exact ih (nodup_names_insert distinct entry.1 entry.2)

/-- A register built from entries has distinct names. -/
theorem nodup_names_ofList (entries : List (String × α)) : (ofList entries).names.Nodup := by
  have bare : (empty : Register α).names.Nodup := List.nodup_nil
  exact nodup_names_foldl_insert bare entries

/-- Under different names, the first value with a property stands under the first name whose value
has it. -/
theorem map_fst_find? {entries : List (String × α)} (distinct : (entries.map (·.1)).Nodup)
    (property : α → Bool) :
    (entries.find? fun entry => property entry.2).map (·.1) =
      (entries.map (·.1)).find? fun name => (Register.findEntry? name entries).any property := by
  induction entries with
  | nil => rfl
  | cons entry rest ih =>
      obtain ⟨absent, others⟩ := List.nodup_cons.mp distinct
      have here : (Register.findEntry? entry.1 (entry :: rest)).any property = property entry.2 := by
        simp [ findEntry?]
      rw [List.map_cons]
      cases has : property entry.2 with
      | true => simp [here, has]
      | false =>
          have later : (rest.map (·.1)).find? (fun name =>
              (Register.findEntry? name (entry :: rest)).any property) =
              (rest.map (·.1)).find? fun name => (Register.findEntry? name rest).any property := by
            refine List.find?_congr fun name member => ?_
            have apart : ¬ entry.1 = name := by
              intro same
              subst same
              exact absent member
            rw [Register.findEntry?, if_neg apart]
          simp only [List.find?_cons, here, has, later]
          exact ih others

/-- A value under a new name becomes the last value. -/
theorem values_insert_of_notMem {register : Register α} {name : String} (value : α)
    (absent : name ∉ register.names) :
    (register.insert name value).values = register.values ++ [value] := by
  rw [values, entries_insert_of_notMem value absent, List.map_append]
  rfl

/-- An entry that is written over later need not be written before. -/
theorem insertEntry_insertEntry (entries : List (String × α)) (name : String)
    (earlier later : α) :
    insertEntry name later (insertEntry name earlier entries) = insertEntry name later entries := by
  induction entries with
  | nil => simp [insertEntry]
  | cons entry rest ih =>
      by_cases here : entry.1 = name
      · simp [insertEntry, here]
      · simp [insertEntry, here, ih]

/-- Of two values written under one name the later one stays. -/
theorem insert_insert (register : Register α) (name : String) (earlier later : α) :
    (register.insert name earlier).insert name later = register.insert name later :=
  congrArg Register.mk (insertEntry_insertEntry register.entries name earlier later)

/-- Writing an entry brings no other entries. -/
theorem mem_insertEntry {entries : List (String × α)} {name : String} {value : α}
    {entry : String × α} (member : entry ∈ insertEntry name value entries) :
    entry = (name, value) ∨ entry ∈ entries := by
  induction entries with
  | nil => exact Or.inl (List.mem_singleton.mp member)
  | cons first rest ih =>
      by_cases here : first.1 = name
      · simp only [insertEntry, here, ↓reduceIte, List.mem_cons] at member
        exact member.imp_right (List.mem_cons_of_mem _)
      · simp only [insertEntry, here, ↓reduceIte, List.mem_cons] at member
        rcases member with same | later
        · exact Or.inr (same ▸ List.mem_cons_self)
        · exact (ih later).imp_right (List.mem_cons_of_mem _)

theorem mem_values_of_mem_insert {register : Register α} {name : String} {written value : α}
    (member : value ∈ (register.insert name written).values) :
    value = written ∨ value ∈ register.values := by
  obtain ⟨entry, listed, rfl⟩ := List.mem_map.mp member
  rcases mem_insertEntry listed with same | earlier
  · exact Or.inl (same ▸ rfl)
  · exact Or.inr (List.mem_map.mpr ⟨entry, earlier, rfl⟩)

/-- Removing an entry brings no entries. -/
theorem mem_of_mem_eraseEntry {entries : List (String × α)} {name : String} {entry : String × α}
    (member : entry ∈ eraseEntry name entries) : entry ∈ entries := by
  induction entries with
  | nil => cases member
  | cons first rest ih =>
      by_cases here : first.1 = name
      · rw [eraseEntry, if_pos here] at member
        exact List.mem_cons_of_mem _ member
      · rw [eraseEntry, if_neg here] at member
        rcases List.mem_cons.mp member with same | later
        · exact same ▸ List.mem_cons_self
        · exact List.mem_cons_of_mem _ (ih later)

theorem mem_values_of_mem_erase {register : Register α} {name : String} {value : α}
    (member : value ∈ (register.erase name).values) : value ∈ register.values := by
  obtain ⟨entry, listed, rfl⟩ := List.mem_map.mp member
  exact List.mem_map.mpr ⟨entry, mem_of_mem_eraseEntry listed, rfl⟩

/-- If the names are distinct, removing one keeps the entries of all others. -/
theorem eraseEntry_eq_filter {entries : List (String × α)} (name : String)
    (distinct : (entries.map (·.1)).Nodup) :
    eraseEntry name entries = entries.filter fun entry => entry.1 != name := by
  induction entries with
  | nil => rfl
  | cons entry rest ih =>
      obtain ⟨absent, others⟩ := List.nodup_cons.mp distinct
      by_cases here : entry.1 = name
      · have kept : rest.filter (fun entry => entry.1 != name) = rest := by
          apply List.filter_eq_self.mpr
          intro other member
          rw [bne_iff_ne]
          intro same
          exact absent (List.mem_map.mpr ⟨other, member, same.trans here.symm⟩)
        simp [eraseEntry, here, kept]
      · simp [eraseEntry, here, ih others]

/-- Removing a name that no entry has changes nothing. -/
theorem eraseEntry_of_notMem {entries : List (String × α)} {name : String}
    (absent : name ∉ entries.map (·.1)) : eraseEntry name entries = entries := by
  induction entries with
  | nil => rfl
  | cons entry rest ih =>
      simp only [List.map_cons, List.mem_cons, not_or] at absent
      simp [eraseEntry, Ne.symm absent.1, ih absent.2]

theorem erase_of_notMem {register : Register α} {name : String} (absent : name ∉ register.names) :
    register.erase name = register :=
  congrArg Register.mk (eraseEntry_of_notMem absent)

/-- Removing a name leaves what is found under the others. -/
theorem findEntry?_eraseEntry_of_ne (entries : List (String × α)) {name query : String}
    (apart : query ≠ name) :
    findEntry? query (eraseEntry name entries) = findEntry? query entries := by
  induction entries with
  | nil => rfl
  | cons entry rest ih =>
      by_cases here : entry.1 = name
      · simp [eraseEntry, findEntry?, here, apart.symm]
      · rw [eraseEntry, if_neg here]
        by_cases same : entry.1 = query
        · simp [same, findEntry?]
        · simp [same, findEntry?, ih]

/-- Removing a name leaves the values of the others. -/
theorem find?_erase_of_ne (register : Register α) {name query : String} (apart : query ≠ name) :
    (register.erase name).find? query = register.find? query :=
  findEntry?_eraseEntry_of_ne register.entries apart

/-- Removing a name keeps the others in their order. -/
theorem names_erase {register : Register α} (name : String) (distinct : register.names.Nodup) :
    (register.erase name).names = register.names.filter (· != name) := by
  rw [names, erase, eraseEntry_eq_filter name distinct, names, List.filter_map]
  rfl

/-- A name that stood only once is not found once it is removed. -/
theorem find?_erase_self {register : Register α} (name : String)
    (distinct : register.names.Nodup) : (register.erase name).find? name = none := by
  rw [find?_eq_none_iff, names_erase name distinct, List.mem_filter]
  rintro ⟨-, apart⟩
  exact bne_iff_ne.mp apart rfl

/-- Values that stand under their own keys, no key twice. -/
structure KeyedBy (key : α → String) (register : Register α) : Prop where
  distinct : register.names.Nodup
  own : ∀ entry ∈ register.entries, entry.1 = key entry.2

namespace KeyedBy

variable {key : α → String} {register : Register α}

/-- The empty register is kept under any key. -/
theorem empty : KeyedBy key (Register.empty : Register α) := by
  constructor
  · exact List.nodup_nil
  · intro entry member
    cases member

/-- The entries are read off the values. -/
theorem entries_eq (keyed : register.KeyedBy key) :
    register.entries = register.values.map fun value => (key value, value) := by
  rw [values, List.map_map]
  refine (List.map_id register.entries).symm.trans (List.map_congr_left ?_)
  intro entry member
  exact Prod.ext (keyed.own entry member) rfl

/-- In a register kept under a key, the value of a name has it as its key. -/
theorem key_of_find? (keyed : register.KeyedBy key) {name : String} {value : α}
    (found : register.find? name = some value) : key value = name :=
  (keyed.own _ (mem_entries_of_find? found)).symm

/-- A value is written under its key, in place of the one that stood there. -/
theorem insert (keyed : register.KeyedBy key) {name : String} {value : α}
    (own : name = key value) : (register.insert name value).KeyedBy key := by
  constructor
  · exact nodup_names_insert keyed.distinct name value
  · intro entry member
    rcases mem_insertEntry member with same | earlier
    · exact same ▸ own
    · exact keyed.own entry earlier

/-- A register stays kept under its key when a name is removed. -/
theorem erase (keyed : register.KeyedBy key) (name : String) :
    (register.erase name).KeyedBy key := by
  constructor
  · rw [names_erase name keyed.distinct]
    exact keyed.distinct.filter _
  · intro entry member
    exact keyed.own entry (mem_of_mem_eraseEntry member)

/-- Removing a name drops the value whose key it is. -/
theorem values_erase (keyed : register.KeyedBy key) (name : String) :
    (register.erase name).values = register.values.filter fun value => key value != name := by
  rw [values, Register.erase, eraseEntry_eq_filter name keyed.distinct, keyed.entries_eq,
    List.filter_map, List.map_map]
  exact List.map_id _

end KeyedBy

end Register

end ErrorCatalog
