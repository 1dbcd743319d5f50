import Mathlib.Logic.Relation
import PlainQuery.Intent.Validation
import PlainQuery.Proofs.Sql.Inference
import PlainQuery.Proofs.Sql.Listing

/-!
# Other words for the same tables

The names of the tables of an intent are looked up twice.  When the intent is checked, the known
ones are kept, in the spelling of the schema and each once (`Intent.knownTables`).  When it is
compiled, the inference of joins does so again with the names after the first (`pendingTables`).

* Both ways lead to the same tables in the same order (`foldl_known`, `knownTables_eq`), and a
  second look-up finds what the first one has found (`pendingTables_names`).  So checking an intent
  changes nothing about its query.

* An unknown first table is compiled alone, under the name it was asked for.  `settledTables` is
  therefore the known tables if the first one is known, and this one name otherwise; a query depends
  on the tables of an intent only through it (`tableClause_settled`, `generate_settled`).

* A change of wording (`Intent.Rewords`) leaves the settled tables as they are: another spelling
  finds the same table (`settledTables_respell`), and a name that is unknown or comes again adds
  none (`settledTables_insert`).  Hints are looked up one by one (`generate_of_hint`).

One place is left where a name is used as it was written: the refusal of a first table whose name
has no character for an identifier.  Such a name has no letters either, so it has one spelling only
(`eq_of_equalIgnoringCase_of_not_usable`).

`generate_validate` states both, for the check and for any number of changes.
-/

namespace PlainQuery

/-! ## Changes of wording -/

/-- One change of wording.  What is respelled has to be known, and what repeats a name has to stand
behind it. -/
inductive Intent.Rewords (schema : Schema) (intent : Intent) : Intent → Prop
  | table (earlier later : List String) {name other : String}
      (htables : intent.tables = earlier ++ name :: later)
      (hknown : (schema.table? name).isSome = true)
      (hcase : Text.equalIgnoringCase name other = true) :
      Rewords schema intent { intent with tables := earlier ++ other :: later }
  | leftTable (earlier later : List JoinHint) (hint : JoinHint) {other : String}
      (hjoins : intent.joins = earlier ++ hint :: later)
      (hknown : (schema.table? hint.leftTable).isSome = true)
      (hcase : Text.equalIgnoringCase hint.leftTable other = true) :
      Rewords schema intent
        { intent with joins := earlier ++ { hint with leftTable := other } :: later }
  | rightTable (earlier later : List JoinHint) (hint : JoinHint) {other : String}
      (hjoins : intent.joins = earlier ++ hint :: later)
      (hknown : (schema.table? hint.rightTable).isSome = true)
      (hcase : Text.equalIgnoringCase hint.rightTable other = true) :
      Rewords schema intent
        { intent with joins := earlier ++ { hint with rightTable := other } :: later }
  | unknown (earlier later : List String) {first extra : String}
      (htables : intent.tables = first :: earlier ++ later)
      (hunknown : schema.table? extra = none) :
      Rewords schema intent { intent with tables := first :: earlier ++ extra :: later }
  | repeated (earlier later : List String) {first name extra : String}
      (htables : intent.tables = first :: earlier ++ later)
      (hmem : name ∈ first :: earlier)
      (hcase : Text.equalIgnoringCase name extra = true) :
      Rewords schema intent { intent with tables := first :: earlier ++ extra :: later }

namespace Sql

open Relation (ReflTransGen)

variable {schema : Schema}

/-! ## Both ways of looking names up -/

/-- Checking goes on from the names of tables like the inference from the tables. -/
theorem foldl_known (seen : List Table) (names : List String) :
    names.foldl
        (fun known name =>
          match schema.table? name with
          | some table => if known.contains table.name then known else known ++ [table.name]
          | none => known)
        (seen.map Table.name) =
      (seen ++ pendingTables schema seen names).map Table.name := by
  induction names generalizing seen with
  | nil => simp [pendingTables]
  | cons name names ih =>
      rw [List.foldl_cons, pendingTables]
      cases schema.table? name with
      | none => exact ih seen
      | some table =>
          have hseen : (seen.map Table.name).contains table.name =
              seen.any fun other => other.name == table.name := by
            rw [List.contains_eq_any_beq, List.any_map]
            congr 1
            funext other
            exact BEq.comm
          dsimp only
          rw [hseen]
          cases seen.any fun other => other.name == table.name with
          | true => exact ih seen
          | false =>
              -- the table moves from the pending ones to those that have been seen
              have hmoved := ih (seen ++ [table])
              rw [List.map_append, List.append_assoc] at hmoved
              exact hmoved

theorem knownTables_eq (names : List String) :
    Intent.knownTables schema names = (pendingTables schema [] names).map Table.name :=
  foldl_known [] names

theorem knownTables_cons {first : String} {anchor : Table} (others : List String)
    (hanchor : schema.table? first = some anchor) :
    Intent.knownTables schema (first :: others) =
      anchor.name :: (pendingTables schema [anchor] others).map Table.name := by
  rw [knownTables_eq, pendingTables, hanchor]
  rfl

theorem mem_knownTables {names : List String} {name : String} {table : Table} (hmem : name ∈ names)
    (htable : schema.table? name = some table) : table.name ∈ Intent.knownTables schema names := by
  rw [knownTables_eq]
  exact List.mem_map_of_mem (mem_pendingTables_iff.mpr ⟨⟨name, hmem, htable⟩, by simp⟩)

/-- Tables without repetition are found again by their own names. -/
theorem pendingTables_names {seen tables : List Table}
    (hfound : ∀ table ∈ tables, schema.table? table.name = some table)
    (hnodup : ((seen ++ tables).map Table.name).Nodup) :
    pendingTables schema seen (tables.map Table.name) = tables := by
  induction tables generalizing seen with
  | nil => rfl
  | cons table tables ih =>
      have hnew : (seen.any fun other => other.name == table.name) = false := by
        rw [List.any_eq_false]
        intro other hother heq
        rw [List.map_append, List.nodup_append] at hnodup
        exact hnodup.2.2 other.name (List.mem_map_of_mem hother) table.name (by simp)
          (beq_iff_eq.mp heq)
      have hrest : pendingTables schema (seen ++ [table]) (tables.map Table.name) = tables := by
        refine ih (fun other hother => hfound other (List.mem_cons_of_mem _ hother)) ?_
        rwa [List.append_assoc]
      rw [List.map_cons, pendingTables, hfound table List.mem_cons_self]
      dsimp only
      rw [hnew, hrest]
      rfl

/-- What has been looked up once is the same when it is looked up again. -/
theorem pendingTables_pendingTables (anchor : Table) (names : List String) :
    pendingTables schema [anchor] ((pendingTables schema [anchor] names).map Table.name) =
      pendingTables schema [anchor] names := by
  refine pendingTables_names (fun table hmem => ?_) ?_
  · exact (mem_pendingTables_iff.mp hmem).1.table?_name
  · refine List.nodup_cons.mpr ⟨fun hmem => ?_, nodup_pendingTables schema [anchor] names⟩
    obtain ⟨table, htable, hname⟩ := List.mem_map.mp hmem
    exact (mem_pendingTables_iff.mp htable).2 (by simp [hname])

/-! ## Names without letters -/

theorem usable_congr {left right : String} (h : Text.equalIgnoringCase left right = true) :
    usable left = usable right := by
  have hlower : ∀ name, usable name = (name.toList.map Char.toLower).any isWordChar := by
    intro name
    rw [List.any_map, usable]
    congr 1
    funext c
    exact (isWordChar_toLower c).symm
  rw [hlower, hlower, Text.equalIgnoringCase_iff.mp h]

theorem map_toLower_of_not_usable {name : String} (h : usable name = false) :
    name.toList.map Char.toLower = name.toList := by
  have heach : ∀ c ∈ name.toList, c.toLower = c := fun c hc =>
    toLower_of_not_isWordChar (by simpa using List.any_eq_false.mp h c hc)
  simpa using List.map_congr_left heach

/-- Without letters there is no case to ignore. -/
theorem eq_of_equalIgnoringCase_of_not_usable {left right : String}
    (h : Text.equalIgnoringCase left right = true) (hleft : usable left = false) :
    left = right := by
  have hright : usable right = false := (usable_congr h).symm.trans hleft
  apply String.toList_injective
  calc left.toList
      = left.toList.map Char.toLower := (map_toLower_of_not_usable hleft).symm
    _ = right.toList.map Char.toLower := Text.equalIgnoringCase_iff.mp h
    _ = right.toList := map_toLower_of_not_usable hright

/-! ## Settled tables -/

/-- What a query takes from the names of the tables: the known ones, or the first one alone if it is
not among them. -/
def settledTables (schema : Schema) : List String → List String
  | [] => []
  | first :: others =>
    if (schema.table? first).isSome then Intent.knownTables schema (first :: others) else [first]

/-- No join is inferred if the first table is not known. -/
theorem inferJoins_of_unknown {first : String} (others : List String)
    (hunknown : schema.table? first = none) : inferJoins schema (first :: others) = [] := by
  simp only [inferJoins, hunknown]

theorem inferJoins_settled {first : String} {anchor : Table} (others : List String)
    (hanchor : schema.table? first = some anchor) :
    inferJoins schema (anchor.name :: (pendingTables schema [anchor] others).map Table.name) =
      inferJoins schema (first :: others) := by
  simp only [inferJoins, Schema.table?_name hanchor, hanchor, pendingTables_pendingTables]

/-- **Settling the tables of an intent does not change the tables of its query**, nor the reason why
there is none. -/
theorem tableClause_settled (intent : Intent) :
    tableClause schema { intent with tables := settledTables schema intent.tables } =
      tableClause schema intent := by
  unfold tableClause
  cases htables : intent.tables with
  | nil => rfl
  | cons first others =>
      cases hanchor : schema.table? first with
      | none =>
          have hsettled : settledTables schema (first :: others) = [first] := by
            rw [settledTables, hanchor]
            rfl
          -- nothing is joined to a table that is not known, whatever else is asked for
          rw [hsettled]
          dsimp only
          rw [inferJoins_of_unknown others hanchor, inferJoins_of_unknown [] hanchor]
      | some anchor =>
          have hsettled : settledTables schema (first :: others) =
              anchor.name :: (pendingTables schema [anchor] others).map Table.name := by
            rw [settledTables, hanchor, knownTables_cons others hanchor]
            rfl
          have hcase := List.find?_some hanchor
          have hname : schema.canonicalName first = anchor.name := by
            rw [Schema.canonicalName, hanchor]
          have hself : schema.canonicalName anchor.name = anchor.name :=
            (Schema.canonical_of_table? hanchor).canonicalName_eq
          rw [hsettled]
          dsimp only
          rw [hname, hself, inferJoins_settled others hanchor, identifier?_eq]
          cases husable : usable anchor.name with
          | true => rfl
          | false =>
              -- the refusal quotes the name as it was asked for
              rw [eq_of_equalIgnoringCase_of_not_usable hcase husable]

/-! ## Rewording keeps what is settled -/

/-- Names that find the same tables, one by one, are known alike. -/
theorem knownTables_respell (earlier later : List String) {name other : String}
    (hcase : Text.equalIgnoringCase name other = true) :
    Intent.knownTables schema (earlier ++ other :: later) =
      Intent.knownTables schema (earlier ++ name :: later) := by
  unfold Intent.knownTables
  -- only the step of the respelled name differs, and it looks the name up first
  rw [List.foldl_append, List.foldl_append, List.foldl_cons, List.foldl_cons,
    Schema.table?_congr hcase]

/-- A name that finds nothing new adds nothing. -/
theorem knownTables_insert (earlier later : List String) {extra : String}
    (hextra : ∀ table, schema.table? extra = some table →
      table.name ∈ Intent.knownTables schema earlier) :
    Intent.knownTables schema (earlier ++ extra :: later) =
      Intent.knownTables schema (earlier ++ later) := by
  unfold Intent.knownTables at hextra ⊢
  rw [List.foldl_append, List.foldl_append, List.foldl_cons]
  -- what has been found up to the new name stays the same
  congr 1
  cases htable : schema.table? extra with
  | none => rfl
  | some table => exact if_pos (List.contains_iff_mem.mpr (hextra table htable))

theorem settledTables_cons_congr {first : String} {others names : List String}
    (h : Intent.knownTables schema (first :: others) = Intent.knownTables schema (first :: names)) :
    settledTables schema (first :: others) = settledTables schema (first :: names) := by
  rw [settledTables, settledTables, h]

theorem settledTables_respell (earlier later : List String) {name other : String}
    (hknown : (schema.table? name).isSome = true)
    (hcase : Text.equalIgnoringCase name other = true) :
    settledTables schema (earlier ++ other :: later) =
      settledTables schema (earlier ++ name :: later) := by
  cases earlier with
  | nil =>
      -- the first table itself is respelled; it is known either way
      have hother : (schema.table? other).isSome = true := by
        rw [← Schema.table?_congr hcase]
        exact hknown
      show settledTables schema (other :: later) = settledTables schema (name :: later)
      rw [settledTables, settledTables, if_pos hknown, if_pos hother]
      exact knownTables_respell [] later hcase
  | cons first earlier =>
      exact settledTables_cons_congr (knownTables_respell (first :: earlier) later hcase)

theorem settledTables_insert (first : String) (earlier later : List String) {extra : String}
    (hextra : ∀ table, schema.table? extra = some table →
      table.name ∈ Intent.knownTables schema (first :: earlier)) :
    settledTables schema (first :: earlier ++ extra :: later) =
      settledTables schema (first :: earlier ++ later) :=
  settledTables_cons_congr (knownTables_insert (first :: earlier) later hextra)

theorem canonicalName_congr {name other : String} (hknown : (schema.table? name).isSome = true)
    (hcase : Text.equalIgnoringCase name other = true) :
    schema.canonicalName name = schema.canonicalName other := by
  obtain ⟨table, htable⟩ := Option.isSome_iff_exists.mp hknown
  unfold Schema.canonicalName
  rw [← Schema.table?_congr hcase, htable]

theorem hintedJoin?_leftTable {hint : JoinHint} {other : String}
    (hknown : (schema.table? hint.leftTable).isSome = true)
    (hcase : Text.equalIgnoringCase hint.leftTable other = true) :
    hintedJoin? schema { hint with leftTable := other } = hintedJoin? schema hint := by
  unfold hintedJoin?
  rw [canonicalName_congr hknown hcase, Schema.table?_congr hcase]

theorem hintedJoin?_rightTable {hint : JoinHint} {other : String}
    (hknown : (schema.table? hint.rightTable).isSome = true)
    (hcase : Text.equalIgnoringCase hint.rightTable other = true) :
    hintedJoin? schema { hint with rightTable := other } = hintedJoin? schema hint := by
  unfold hintedJoin?
  rw [canonicalName_congr hknown hcase, Schema.table?_congr hcase]

/-! ## Queries -/

variable {intent other : Intent} (defaultDateColumn : String)

theorem generate_settled (intent : Intent) :
    generate defaultDateColumn { intent with tables := settledTables schema intent.tables } schema =
      generate defaultDateColumn intent schema := by
  rw [generate_eq_map, generate_eq_map, tableClause_settled]
  rfl

/-- Intents that settle on the same tables have the same query. -/
theorem generate_of_settled {tables : List String}
    (h : settledTables schema tables = settledTables schema intent.tables) :
    generate defaultDateColumn { intent with tables } schema =
      generate defaultDateColumn intent schema :=
  calc generate defaultDateColumn { intent with tables } schema
      = generate defaultDateColumn { intent with tables := settledTables schema tables } schema :=
        (generate_settled defaultDateColumn { intent with tables }).symm
    _ = generate defaultDateColumn
          { intent with tables := settledTables schema intent.tables } schema := by rw [h]
    _ = generate defaultDateColumn intent schema := generate_settled defaultDateColumn intent

/-- A hint may be replaced by one that asks for the same join. -/
theorem generate_of_hint {earlier later : List JoinHint} {hint reworded : JoinHint}
    (hjoins : intent.joins = earlier ++ hint :: later)
    (h : hintedJoin? schema reworded = hintedJoin? schema hint) :
    generate defaultDateColumn { intent with joins := earlier ++ reworded :: later } schema =
      generate defaultDateColumn intent schema := by
  have hhinted : (earlier ++ reworded :: later).filterMap (hintedJoin? schema) =
      intent.joins.filterMap (hintedJoin? schema) := by
    rw [hjoins, List.filterMap_append, List.filterMap_append, List.filterMap_cons,
      List.filterMap_cons, h]
  -- whether there are hints at all is not changed by their wording
  have hempty : (earlier ++ reworded :: later).isEmpty = intent.joins.isEmpty := by
    rw [hjoins]
    cases earlier <;> rfl
  have htables : tableClause schema { intent with joins := earlier ++ reworded :: later } =
      tableClause schema intent := by
    unfold tableClause
    dsimp only
    rw [hhinted, hempty]
  rw [generate_eq_map, generate_eq_map, htables]
  rfl

theorem generate_of_rewords (h : intent.Rewords schema other) :
    generate defaultDateColumn other schema = generate defaultDateColumn intent schema := by
  cases h with
  | table earlier later htables hknown hcase =>
      refine generate_of_settled defaultDateColumn ?_
      rw [htables]
      exact settledTables_respell earlier later hknown hcase
  | leftTable earlier later hint hjoins hknown hcase =>
      exact generate_of_hint defaultDateColumn hjoins (hintedJoin?_leftTable hknown hcase)
  | rightTable earlier later hint hjoins hknown hcase =>
      exact generate_of_hint defaultDateColumn hjoins (hintedJoin?_rightTable hknown hcase)
  | unknown earlier later htables hunknown =>
      refine generate_of_settled defaultDateColumn ?_
      rw [htables]
      refine settledTables_insert _ earlier later fun table htable => ?_
      rw [hunknown] at htable
      cases htable
  | repeated earlier later htables hmem hcase =>
      refine generate_of_settled defaultDateColumn ?_
      rw [htables]
      refine settledTables_insert _ earlier later fun table htable => ?_
      exact mem_knownTables hmem ((Schema.table?_congr hcase).trans htable)

/-- **Checking an intent does not change what is compiled.**  An intent whose first table is known
passes the check, and what the check makes of it has the same query, or is refused for the same
reason.  Nor does any rewording of an intent make a difference. -/
theorem generate_validate (schema : Schema) (intent : Intent) :
    (∀ first others, intent.tables = first :: others → (schema.table? first).isSome = true →
      ∃ checked, intent.validate schema = .ok checked ∧
        ∀ defaultDateColumn, generate defaultDateColumn checked schema =
          generate defaultDateColumn intent schema) ∧
    ∀ other, ReflTransGen (Intent.Rewords schema) intent other →
      ∀ defaultDateColumn, generate defaultDateColumn other schema =
        generate defaultDateColumn intent schema := by
  refine ⟨fun first others htables hknown => ?_, fun other hwords defaultDateColumn => ?_⟩
  · obtain ⟨anchor, hanchor⟩ := Option.isSome_iff_exists.mp hknown
    -- what the check keeps is what a query settles on
    have hsettled : Intent.knownTables schema intent.tables =
        settledTables schema intent.tables := by
      rw [htables, settledTables, if_pos hknown]
    refine ⟨{ intent with tables := settledTables schema intent.tables }, ?_,
      fun defaultDateColumn => generate_settled defaultDateColumn intent⟩
    rw [← hsettled, Intent.validate, htables, knownTables_cons others hanchor]
  · induction hwords with
    | refl => rfl
    | tail _ hstep ih => exact (generate_of_rewords defaultDateColumn hstep).trans ih

/-- Some orders, with a proposal of how to find their customers. -/
def hintedOrders (tables : List String) (left right : String) : Intent :=
  { ordersIntent with tables, joins := [⟨left, "customer_id", right, "id"⟩] }

theorem rewords_hintedOrders :
    ReflTransGen (Intent.Rewords ordersSchema)
      (hintedOrders ["ORDERS", "customers"] "orders" "CUSTOMERS")
      (hintedOrders ["orders", "ghosts", "customers", "Orders"] "Orders" "customers") := by
  have hspelling : (hintedOrders ["ORDERS", "customers"] "orders" "CUSTOMERS").Rewords ordersSchema
      (hintedOrders ["orders", "customers"] "orders" "CUSTOMERS") :=
    .table [] ["customers"] rfl (by decide) (by decide)
  have hghosts : (hintedOrders ["orders", "customers"] "orders" "CUSTOMERS").Rewords ordersSchema
      (hintedOrders ["orders", "ghosts", "customers"] "orders" "CUSTOMERS") :=
    .unknown [] ["customers"] rfl (by decide)
  have hagain : (hintedOrders ["orders", "ghosts", "customers"] "orders" "CUSTOMERS").Rewords
      ordersSchema
      (hintedOrders ["orders", "ghosts", "customers", "Orders"] "orders" "CUSTOMERS") :=
    .repeated ["ghosts", "customers"] [] rfl List.mem_cons_self (by decide)
  have hleft : (hintedOrders ["orders", "ghosts", "customers", "Orders"] "orders"
      "CUSTOMERS").Rewords ordersSchema
      (hintedOrders ["orders", "ghosts", "customers", "Orders"] "Orders" "CUSTOMERS") :=
    .leftTable [] [] ⟨"orders", "customer_id", "CUSTOMERS", "id"⟩ rfl (by decide) (by decide)
  have hright : (hintedOrders ["orders", "ghosts", "customers", "Orders"] "Orders"
      "CUSTOMERS").Rewords ordersSchema
      (hintedOrders ["orders", "ghosts", "customers", "Orders"] "Orders" "customers") :=
    .rightTable [] [] ⟨"Orders", "customer_id", "CUSTOMERS", "id"⟩ rfl (by decide) (by decide)
  exact ((((ReflTransGen.single hspelling).tail hghosts).tail hagain).tail hleft).tail hright

/-- An intent and its checked form, and an intent with a hint in other words. -/
theorem validate_orders :
    (∃ checked, ordersIntent.validate ordersSchema = .ok checked ∧
      checked.tables = ["orders", "Customers"] ∧
      generate "fecha" checked ordersSchema = generate "fecha" ordersIntent ordersSchema) ∧
    generate "fecha"
        (hintedOrders ["orders", "ghosts", "customers", "Orders"] "Orders" "customers")
        ordersSchema =
      generate "fecha" (hintedOrders ["ORDERS", "customers"] "orders" "CUSTOMERS")
        ordersSchema := by
  obtain ⟨checked, hchecked, hquery⟩ :=
    (generate_validate ordersSchema ordersIntent).1 "ORDERS" ["customers"] rfl (by decide)
  refine ⟨⟨checked, hchecked, ?_, hquery "fecha"⟩, ?_⟩
  · cases hchecked
    decide
  · exact (generate_validate ordersSchema _).2 _ rewords_hintedOrders "fecha"

end Sql

end PlainQuery
