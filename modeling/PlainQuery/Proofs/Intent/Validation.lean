import PlainQuery.Failure
import PlainQuery.Intent.Validation
import PlainQuery.Proofs.FirstOccurrences
import PlainQuery.Proofs.Schema

/-!
# Checked intents

Checking an intent looks its tables up without regard to case, but compares what it has found
exactly.  That comes to the same: the names found are canonical, that is, the names under which
their tables are found again, and canonical names are equal as soon as they are equal up to case
(`Schema.Canonical.eq_of_equalIgnoringCase`).

* What is kept are the first occurrences among the spellings of the names that are known
  (`knownTables_eq_eraseDups`), by induction on the names from the end, where the last one adds its
  spelling or nothing.
* They are canonical and no two of them are alike (`knownTables_canonical`, `knownTables_nodup`), so
  looking them up again gives the same list (`knownTables_of_canonical`).
* The list is empty exactly if no table is asked for that the schema has (`knownTables_ne_nil_iff`).

`validate_keepsKnown` puts this together: which intents pass, what is left of them, and that a
second check changes nothing.  `canonical_of_validate` is what the other modules need of it.
-/

namespace PlainQuery.Intent

variable {schema : Schema}

theorem knownTables_concat_of_none {names : List String} {name : String}
    (hname : schema.table? name = none) :
    knownTables schema (names ++ [name]) = knownTables schema names := by
  unfold knownTables
  rw [List.foldl_append, List.foldl_cons, List.foldl_nil, hname]

theorem knownTables_concat_of_some {names : List String} {name : String} {table : Table}
    (hname : schema.table? name = some table) :
    knownTables schema (names ++ [name]) =
      if (knownTables schema names).contains table.name then knownTables schema names
      else knownTables schema names ++ [table.name] := by
  unfold knownTables
  rw [List.foldl_append, List.foldl_cons, List.foldl_nil, hname]

/-- The known tables are the spellings of the names that the schema knows, each where it first
occurs. -/
theorem knownTables_eq_eraseDups (schema : Schema) (names : List String) :
    knownTables schema names = (names.filterMap schema.spelling?).eraseDups := by
  -- the last name adds its spelling to what the names before it have left, unless it is there
  induction names using List.reverseRecOn with
  | nil => rfl
  | append_singleton names name ih =>
      cases htable : schema.table? name with
      | none =>
          have hnone : schema.spelling? name = none := by
            rw [Schema.spelling?_eq, htable]
            rfl
          rw [knownTables_concat_of_none htable, ih, List.filterMap_append]
          simp [hnone]
      | some table =>
          have hsome : schema.spelling? name = some table.name := by
            rw [Schema.spelling?_eq, htable]
            rfl
          rw [knownTables_concat_of_some htable, ih, List.filterMap_append]
          simp only [List.filterMap_cons, List.filterMap_nil, hsome, eraseDups_concat,
            List.contains_iff_mem, List.mem_eraseDups]

theorem knownTables_canonical (schema : Schema) (names : List String) :
    ∀ name ∈ knownTables schema names, schema.Canonical name := by
  intro name hmem
  rw [knownTables_eq_eraseDups, List.mem_eraseDups, List.mem_filterMap] at hmem
  obtain ⟨asked, -, hspelling⟩ := hmem
  rw [Schema.spelling?_eq] at hspelling
  obtain ⟨table, htable, rfl⟩ := Option.map_eq_some_iff.mp hspelling
  exact Schema.canonical_of_table? htable

theorem knownTables_nodup (schema : Schema) (names : List String) :
    (knownTables schema names).Nodup := by
  rw [knownTables_eq_eraseDups]
  exact nodup_eraseDups _

/-- Canonical names that are looked up without repetition are what is found. -/
theorem knownTables_of_canonical {names : List String}
    (hcanonical : ∀ name ∈ names, schema.Canonical name) (hnodup : names.Nodup) :
    knownTables schema names = names := by
  have hspellings : names.filterMap schema.spelling? = names.filterMap some :=
    List.filterMap_congr fun name hmem => (hcanonical name hmem).spelling?_eq
  rw [knownTables_eq_eraseDups, hspellings, List.filterMap_some, eraseDups_of_nodup hnodup]

/-- A checked intent names a table, and all tables that it names are canonical. -/
theorem canonical_of_validate {asked intent : Intent} (h : asked.validate schema = .ok intent) :
    ∃ first others, intent.tables = first :: others ∧
      ∀ name ∈ first :: others, schema.Canonical name := by
  have hcanonical := knownTables_canonical schema asked.tables
  unfold validate at h
  split at h
  · cases h
  · rename_i known hnone
    cases h
    obtain ⟨first, others, hknown⟩ := List.exists_cons_of_ne_nil hnone
    rw [hknown] at hcanonical
    exact ⟨first, others, hknown, hcanonical⟩

/-! ## What is kept -/

/-- The intent asks for a table by a name that is equal to that of a table up to case. -/
def AsksForKnown (schema : Schema) (asked : Intent) : Prop :=
  ∃ name ∈ asked.tables, ∃ known ∈ schema.tableNames, Text.equalIgnoringCase known name = true

theorem knownTables_ne_nil_iff {asked : Intent} :
    knownTables schema asked.tables ≠ [] ↔ asked.AsksForKnown schema := by
  have hmem : ∀ known, known ∈ knownTables schema asked.tables ↔
      ∃ name ∈ asked.tables, schema.spelling? name = some known := by
    intro known
    rw [knownTables_eq_eraseDups, List.mem_eraseDups, List.mem_filterMap]
  constructor
  · intro hne
    obtain ⟨known, hknown⟩ := List.exists_mem_of_ne_nil _ hne
    obtain ⟨name, hname, hspelling⟩ := (hmem known).mp hknown
    exact ⟨name, hname, known, Schema.mem_of_spelling? hspelling⟩
  · rintro ⟨name, hname, known, hknown, hcase⟩
    have hfound : (schema.spelling? name).isSome = true :=
      List.find?_isSome.mpr ⟨known, hknown, hcase⟩
    obtain ⟨spelling, hspelling⟩ := Option.isSome_iff_exists.mp hfound
    exact List.ne_nil_of_mem ((hmem spelling).mpr ⟨name, hname, hspelling⟩)

/-- The checked intent is the one asked for with nothing but its known tables. -/
structure KeepsKnown (schema : Schema) (asked checked : Intent) : Prop where
  /-- They are in the spelling of the schema and in the order in which they were first asked for. -/
  tables : checked.tables = (asked.tables.filterMap schema.spelling?).eraseDups
  distinct : checked.tables.Pairwise fun first second =>
    Text.equalIgnoringCase first second = false
  nonempty : checked.tables ≠ []
  others : checked = { asked with tables := checked.tables }

theorem validate_eq_ok {asked : Intent} (hknown : knownTables schema asked.tables ≠ []) :
    asked.validate schema = .ok { asked with tables := knownTables schema asked.tables } := by
  unfold validate
  split
  · rename_i hnil
    exact absurd hnil hknown
  · rfl

theorem validate_eq_error {asked : Intent} (hknown : knownTables schema asked.tables = []) :
    asked.validate schema = .error ⟨schema.tableNames⟩ := by
  unfold validate
  rw [hknown]

/-- **Checking keeps exactly the known tables.**  It succeeds exactly if a table is asked for that
the schema has; then nothing but the unknown and the repeated tables is gone, and a second check
changes nothing.  Otherwise the tables that there are are listed. -/
theorem validate_keepsKnown (schema : Schema) (asked : Intent) :
    match asked.validate schema with
    | .ok checked =>
      asked.AsksForKnown schema ∧ KeepsKnown schema asked checked ∧
        checked.validate schema = .ok checked
    | .error problem =>
      ¬ asked.AsksForKnown schema ∧
        Failure.ofUnknownTables problem = .inStage .intentParsing
          ("No valid tables found. Available: " ++ Text.joined ", " schema.tableNames) := by
  by_cases hknown : knownTables schema asked.tables = []
  · rw [validate_eq_error hknown]
    exact ⟨fun hasks => knownTables_ne_nil_iff.mpr hasks hknown, rfl⟩
  · rw [validate_eq_ok hknown]
    have hcanonical := knownTables_canonical schema asked.tables
    have hnodup := knownTables_nodup schema asked.tables
    -- what is kept is found again, so the second check keeps it
    have hagain : knownTables schema (knownTables schema asked.tables) =
        knownTables schema asked.tables := knownTables_of_canonical hcanonical hnodup
    refine ⟨knownTables_ne_nil_iff.mp hknown, ?_, ?_⟩
    · exact
        { tables := knownTables_eq_eraseDups schema asked.tables
          distinct := Schema.pairwise_of_canonical hcanonical hnodup
          nonempty := hknown
          others := rfl }
    · rw [validate_eq_ok (by rwa [hagain])]
      dsimp only
      rw [hagain]

/-- Of tables whose names differ in case only, the first is found. -/
example :
    knownTables ⟨[{ name := "Orders" }, { name := "ORDERS" }, { name := "items" }], default⟩
      ["ITEMS", "orders", "ghosts", "ORDERS", "items"] = ["items", "Orders"] := by decide

end PlainQuery.Intent
