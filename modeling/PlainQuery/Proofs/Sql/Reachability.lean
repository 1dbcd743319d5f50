import Mathlib.Logic.Relation
import PlainQuery.Proofs.Sql.Inference

/-!
# Which tables are joined by inference

The inference works round by round: which table comes next depends on the order in which tables are
asked for.  In the end it makes no difference.  The joined tables, together with the first one, are
exactly the tables asked for that foreign keys connect to the first one by way of tables asked for
(`joined_iff_reachable`):

* a join is on a foreign key, so what is joined is connected (`reachable_of_joined`, by
  `Attached.forall_mem`);

* what is left over is linked to nothing that is there, so what is there is closed under links
  (`joined_of_linked`, by `inferJoins_exhausts`).

The way is a path of `Schema.ConnectsAmong`, where both ends of each step are asked for; a table
that nobody asks for connects nothing.

So the outcome depends on the set of the tables asked for, and neither on the order nor on the
spelling of their names, nor on unknown or repeated ones (`mem_joinedTables_congr`).  The first
table plays another part than the others and is kept fixed.  `inferJoins_maximal` is the main
statement.
-/

namespace PlainQuery

namespace Schema

variable {schema : Schema} {names others : List String}

/-- Each known name of the first list is in the second one too, in some case. -/
def NamedAlso (schema : Schema) (names others : List String) : Prop :=
  ∀ name ∈ names, (schema.table? name).isSome = true →
    ∃ other ∈ others, Text.equalIgnoringCase other name = true

instance (schema : Schema) (names others : List String) :
    Decidable (schema.NamedAlso names others) :=
  inferInstanceAs (Decidable (∀ name ∈ names, _ → ∃ other ∈ others, _))

theorem NamedAlso.finds (h : schema.NamedAlso names others) {table : Table}
    (hfinds : schema.Finds names table) : schema.Finds others table := by
  obtain ⟨name, hmem, hname⟩ := hfinds
  obtain ⟨other, hother, hcase⟩ := h name hmem (by rw [hname]; rfl)
  exact ⟨other, hother, (table?_congr hcase).trans hname⟩

/-- Both tables are asked for, and a foreign key connects them. -/
def ConnectsAmong (schema : Schema) (names : List String) (table other : Table) : Prop :=
  schema.Finds names table ∧ schema.Finds names other ∧ table.Linked other

end Schema

namespace Sql

open Relation (ReflTransGen)

variable {schema : Schema} {first : String} {others : List String} {anchor table : Table}

/-- The tables that inference joins to the first one. -/
def joinedTables (schema : Schema) (names : List String) : List Table :=
  (inferJoins schema names).map Prod.snd

theorem finds_of_mem_joinedTables (hanchor : schema.table? first = some anchor)
    (hmem : table ∈ anchor :: joinedTables schema (first :: others)) :
    schema.Finds (first :: others) table := by
  rcases List.mem_cons.mp hmem with rfl | hmem
  · exact ⟨first, List.mem_cons_self, hanchor⟩
  · obtain ⟨found, hfound, rfl⟩ := List.mem_map.mp hmem
    have hpending := mem_pendingTables_of_mem_inferJoins hanchor hfound
    exact Schema.finds_cons.mpr (.inr (mem_pendingTables_iff.mp hpending).1)

/-- A table asked for is there, pending or the first one, whose name it may also have. -/
theorem mem_of_finds (hanchor : schema.table? first = some anchor)
    (h : schema.Finds (first :: others) table) :
    table ∈ anchor :: pendingTables schema [anchor] others := by
  rw [List.mem_cons]
  by_cases heq : table.name = anchor.name
  · exact .inl (Schema.eq_of_name_eq h.table?_name (Schema.table?_name hanchor) heq)
  · refine .inr (mem_pendingTables_iff.mpr ⟨?_, by simpa using heq⟩)
    rcases Schema.finds_cons.mp h with hfirst | hothers
    · rw [hanchor, Option.some.injEq] at hfirst
      exact absurd (congrArg Table.name hfirst.symm) heq
    · exact hothers

/-- Along the joins, foreign keys lead from the first table to every joined one. -/
theorem reachable_of_joined (hanchor : schema.table? first = some anchor)
    (hmem : table ∈ anchor :: joinedTables schema (first :: others)) :
    ReflTransGen (schema.ConnectsAmong (first :: others)) anchor table := by
  have hfinds : ∀ other ∈ anchor :: joinedTables schema (first :: others),
      schema.Finds (first :: others) other :=
    fun other => finds_of_mem_joinedTables hanchor
  rcases List.mem_cons.mp hmem with rfl | hmem
  · exact .refl
  · obtain ⟨found, hfound, rfl⟩ := List.mem_map.mp hmem
    -- being asked for and being reached pass along a join together
    have hreached : ∀ found ∈ inferJoins schema (first :: others),
        schema.Finds (first :: others) found.2 ∧
          ReflTransGen (schema.ConnectsAmong (first :: others)) anchor found.2 := by
      refine (inferJoins_exhausts others hanchor).attached.forall_mem (P := fun other =>
        schema.Finds (first :: others) other ∧
          ReflTransGen (schema.ConnectsAmong (first :: others)) anchor other) ?_ ?_
      · intro other hother
        rw [List.mem_singleton.mp hother]
        exact ⟨hfinds anchor List.mem_cons_self, .refl⟩
      · rintro source found ⟨hsource, hway⟩ hfound hlinked
        have hasked : schema.Finds (first :: others) found.2 :=
          hfinds found.2 (List.mem_cons_of_mem _ (List.mem_map_of_mem hfound))
        exact ⟨hasked, hway.tail ⟨hsource, hasked, hlinked⟩⟩
    exact (hreached found hfound).2

/-- A table asked for that is linked to a table that is there is there too: it would not have been
left over. -/
theorem joined_of_linked (hanchor : schema.table? first = some anchor) {source : Table}
    (hsource : source ∈ anchor :: joinedTables schema (first :: others))
    (hlinked : schema.ConnectsAmong (first :: others) source table) :
    table ∈ anchor :: joinedTables schema (first :: others) := by
  obtain ⟨-, rest, hperm, hleft⟩ := inferJoins_exhausts others hanchor
  rw [List.mem_cons]
  rcases List.mem_cons.mp (mem_of_finds hanchor hlinked.2.1) with rfl | hpending
  · exact .inl rfl
  · rcases List.mem_append.mp (hperm.mem_iff.mpr hpending) with hjoined | hrest
    · exact .inr hjoined
    · exact absurd hlinked.2.2 (joinTo?_eq_none_iff.mp (hleft table hrest) source hsource)

theorem joined_iff_reachable (hanchor : schema.table? first = some anchor) :
    table ∈ anchor :: joinedTables schema (first :: others) ↔
      ReflTransGen (schema.ConnectsAmong (first :: others)) anchor table := by
  refine ⟨reachable_of_joined hanchor, fun hway => ?_⟩
  induction hway with
  | refl => exact List.mem_cons_self
  | tail _ hlinked ih => exact joined_of_linked hanchor ih hlinked

/-- Which tables are joined depends on the tables asked for only. -/
theorem mem_joinedTables_congr {names : List String} (hanchor : schema.table? first = some anchor)
    (hothers : schema.NamedAlso others names) (hnames : schema.NamedAlso names others) :
    table ∈ joinedTables schema (first :: others) ↔
      table ∈ joinedTables schema (first :: names) := by
  have hfinds : schema.Finds (first :: others) = schema.Finds (first :: names) := by
    funext other
    rw [Schema.finds_cons, Schema.finds_cons, eq_iff_iff]
    exact or_congr_right ⟨hothers.finds, hnames.finds⟩
  -- the same tables are asked for, so the same ones are connected
  have hconnects :
      schema.ConnectsAmong (first :: others) = schema.ConnectsAmong (first :: names) := by
    unfold Schema.ConnectsAmong
    rw [hfinds]
  -- the first table is in neither list of joined ones, and has to be taken off the two
  have hnew : ∀ asked, anchor ∉ joinedTables schema (first :: asked) := by
    intro asked hmem
    refine (List.nodup_cons.mp (nodup_inferJoins asked hanchor)).1 ?_
    have hname := List.mem_map_of_mem (f := Table.name) hmem
    rwa [joinedTables, List.map_map] at hname
  have hall : table ∈ anchor :: joinedTables schema (first :: others) ↔
      table ∈ anchor :: joinedTables schema (first :: names) := by
    rw [joined_iff_reachable hanchor, joined_iff_reachable hanchor, hconnects]
  rw [List.mem_cons, List.mem_cons] at hall
  by_cases heq : table = anchor
  · rw [heq]
    exact iff_of_false (hnew others) (hnew names)
  · simpa [heq] using hall

/-- **Inference joins as much as foreign keys allow.**  With the first table, the joined ones are
the tables asked for that foreign keys connect to it by way of tables asked for.  Each is joined
once, under its name, and the first one is not joined.  A list that names the same tables after the
first one, be it in another order, repeatedly, in another case or with unknown names among them, has
the same tables joined. -/
theorem inferJoins_maximal (others : List String) (hanchor : schema.table? first = some anchor) :
    (∀ table, table ∈ anchor :: joinedTables schema (first :: others) ↔
      schema.Finds (first :: others) table ∧
        ReflTransGen (schema.ConnectsAmong (first :: others)) anchor table) ∧
    (∀ found ∈ inferJoins schema (first :: others), found.1.target = .ofName found.2.name) ∧
    (anchor.name :: (joinedTables schema (first :: others)).map Table.name).Nodup ∧
    ∀ names, schema.NamedAlso others names → schema.NamedAlso names others →
      ∀ table, table ∈ joinedTables schema (first :: others) ↔
        table ∈ joinedTables schema (first :: names) := by
  refine ⟨fun table => ?_, fun found hmem => ?_, ?_, fun names hothers hnames table => ?_⟩
  · rw [← joined_iff_reachable hanchor]
    exact ⟨fun hmem => ⟨finds_of_mem_joinedTables hanchor hmem, hmem⟩, And.right⟩
  · obtain ⟨earlier, later, hjoins⟩ := List.append_of_mem hmem
    have hattached := (inferJoins_exhausts others hanchor).attached
    rw [hjoins] at hattached
    obtain ⟨source, -, hkey⟩ := hattached.exists_source
    exact hkey.target_eq
  · rw [joinedTables, List.map_map]
    exact nodup_inferJoins others hanchor
  · exact mem_joinedTables_congr hanchor hothers hnames

/-- Notes refer to orders, orders to customers and customers to regions; the stock stands alone. -/
def shopSchema : Schema where
  tables :=
    [{ name := "orders"
       columns :=
         [.referencing "CUSTOMERS" "id" { name := "customer_id", dataType := "INTEGER" }] },
     { name := "stock", columns := [{ name := "id", dataType := "INTEGER" }] },
     { name := "customers"
       columns := [.referencing "regions" "id" { name := "region_id", dataType := "INTEGER" }] },
     { name := "regions", columns := [{ name := "id", dataType := "INTEGER" }] },
     { name := "notes"
       columns := [.referencing "orders" "id" { name := "order_id", dataType := "INTEGER" }] }]
  discoveredAt := default

/-- What is asked for besides orders: regions, which can be joined last, are in front. -/
def shopNames : List String := ["regions", "stock", "Notes", "ghosts", "customers"]

theorem maximal_shop :
    ∃ anchor, shopSchema.table? "Orders" = some anchor ∧
      (joinedTables shopSchema ("Orders" :: shopNames)).map Table.name =
        ["notes", "customers", "regions"] ∧
      (∀ table, table ∈ anchor :: joinedTables shopSchema ("Orders" :: shopNames) ↔
        shopSchema.Finds ("Orders" :: shopNames) table ∧
          ReflTransGen (shopSchema.ConnectsAmong ("Orders" :: shopNames)) anchor table) ∧
      ∀ table, table ∈ joinedTables shopSchema ("Orders" :: shopNames) ↔
        table ∈ joinedTables shopSchema
          ["Orders", "CUSTOMERS", "notes", "Regions", "notes", "stock"] := by
  obtain ⟨anchor, hanchor⟩ : ∃ anchor, shopSchema.table? "Orders" = some anchor := ⟨_, rfl⟩
  obtain ⟨hiff, -, -, hcongr⟩ := inferJoins_maximal shopNames hanchor
  exact ⟨anchor, hanchor, by decide, hiff, hcongr _ (by decide) (by decide)⟩

end Sql

end PlainQuery
