import PlainQuery.Proofs.Intent.Validation
import PlainQuery.Proofs.Sql.Tables

/-!
# How tables are named in a query

A table of a checked intent is looked up in the schema, so it is known by its exact name.  What is
written is the identifier that is left of this name.  That is the name itself if it holds identifier
characters only (`Identifier.name_ofName_eq_iff`), and no name of the schema in general: a table
whose name has a blank in it is asked for under another name (`altered_order_items`).

`generate_tableNames` says of every table named in the `FROM` clause which table of the schema it
stands for, and when it is named exactly.  A table is named when it is introduced and again in the
conditions of the joins; all of these places are listed by `Sentence.tableIdentifiers`.

What the tables of the conditions are is known from `PlainQuery.Proofs.Sql.Tables`: the table on the
left side of a condition has a name of the schema, and so has the new one, whether the join comes
from a hint or from the schema (`exists_canonical_of_mem_tableIdentifiers`).
-/

namespace PlainQuery.Sql

/-- The name holds identifier characters only. -/
def Plain (name : String) : Prop := ∀ c ∈ name.toList, isWordChar c = true

instance (name : String) : Decidable (Plain name) :=
  inferInstanceAs (Decidable (∀ c ∈ name.toList, _))

/-- An identifier is the name that it is left of exactly if nothing of the name has been lost. -/
theorem Identifier.name_ofName_eq_iff {name : String} :
    (Identifier.ofName name).name = name ↔ Plain name := by
  unfold Plain Identifier.name Identifier.ofName
  rw [← String.toList_inj, String.toList_ofList, List.filter_eq_self]

/-- The identifiers that name a table in the `FROM` clause: the tables that are introduced, and
those in the conditions of the joins. -/
def Sentence.tableIdentifiers (sentence : Sentence) : List Identifier :=
  sentence.anchor ::
    sentence.joins.flatMap fun join => [join.table, join.leftTable, join.rightTable]

variable {schema : Schema} {intent : Intent} {first : String} {others : List String}

theorem exists_canonical_of_mem_tableIdentifiers (htables : intent.tables = first :: others)
    (hfirst : schema.Canonical first) {sentence : Sentence}
    (hanchor : sentence.anchor = .ofName first)
    (hjoins : sentence.joins = acceptedJoins schema intent) {identifier : Identifier}
    (hmem : identifier ∈ sentence.tableIdentifiers) :
    ∃ name, schema.Canonical name ∧ identifier = .ofName name := by
  rcases List.mem_cons.mp hmem with rfl | hmem
  · exact ⟨first, hfirst, hanchor⟩
  · obtain ⟨phrase, hphrase, hmem⟩ := List.mem_flatMap.mp hmem
    rw [hjoins] at hphrase
    obtain ⟨join, name, hadds, rfl⟩ := exists_adds_of_mem_acceptedJoins htables hfirst hphrase
    obtain ⟨other, hother, hsource⟩ := hadds.source
    simp only [List.mem_cons, List.not_mem_nil, or_false] at hmem
    -- the new table is named twice, the other one between the two
    rcases hmem with rfl | rfl | rfl
    · exact ⟨name, hadds.canonical, hadds.target⟩
    · exact ⟨other, hother, hsource⟩
    · exact ⟨name, hadds.canonical, hadds.target⟩

/-- **Every table is named by what is left of its name.**  Each identifier that names a table in the
`FROM` clause of a query for a checked intent is the name of a table of the schema without the
characters that identifiers do not have; it is the name of this table exactly if there are none.  So
if the schema has plain names only, tables are named exactly. -/
theorem generate_tableNames {asked : Intent} {defaultDateColumn : String} {query : Query}
    (hvalid : asked.validate schema = .ok intent)
    (h : generate defaultDateColumn intent schema = .ok query) :
    ∃ sentence : Sentence, sentence.text = query.sql.toList ∧
      (∀ other : Sentence, other.text = query.sql.toList → other = sentence) ∧
      (∀ identifier ∈ sentence.tableIdentifiers, ∃ name ∈ schema.tableNames,
        identifier.name = String.ofList (name.toList.filter isWordChar) ∧
          (identifier.name = name ↔ Plain name)) ∧
      ((∀ name ∈ schema.tableNames, Plain name) →
        ∀ identifier ∈ sentence.tableIdentifiers, identifier.name ∈ schema.tableNames) := by
  obtain ⟨first, others, htables, hcanonical⟩ := Intent.canonical_of_validate hvalid
  have hfirst := hcanonical first List.mem_cons_self
  obtain ⟨sentence, htext, hunique, hanchor, hjoins, -⟩ :=
    exists_sentence_of_generate h htables hfirst
  have hnamed := fun identifier (hmem : identifier ∈ sentence.tableIdentifiers) =>
    exists_canonical_of_mem_tableIdentifiers htables hfirst hanchor hjoins hmem
  refine ⟨sentence, htext, hunique, fun identifier hmem => ?_, fun hplain identifier hmem => ?_⟩
  · obtain ⟨name, hname, rfl⟩ := hnamed identifier hmem
    exact ⟨name, hname.mem_tableNames, rfl, Identifier.name_ofName_eq_iff⟩
  · obtain ⟨name, hname, rfl⟩ := hnamed identifier hmem
    rw [Identifier.name_ofName_eq_iff.mpr (hplain name hname.mem_tableNames)]
    exact hname.mem_tableNames

/-- The items of orders, in a table with a blank in its name, and plain orders. -/
def itemsSchema : Schema where
  tables :=
    [{ name := "order items"
       columns := [.referencing "orders" "id" { name := "order_id", dataType := "INTEGER" }] },
     { name := "orders", columns := [{ name := "id", dataType := "INTEGER" }] }]
  discoveredAt := default

/-- Some tables of that schema. -/
def itemsIntent (tables : List String) : Intent where
  tables := tables
  confidence := default

/-- Of the two tables of a query only the plain one is named exactly. -/
theorem tableNames_items :
    ∃ query, (itemsIntent ["ORDERS", "Order Items"]).validate itemsSchema =
        .ok (itemsIntent ["orders", "order items"]) ∧
      generate "fecha" (itemsIntent ["orders", "order items"]) itemsSchema = .ok query ∧
      ∃ sentence : Sentence, sentence.text = query.sql.toList ∧
        ∀ identifier ∈ sentence.tableIdentifiers, ∃ name ∈ itemsSchema.tableNames,
          identifier.name = String.ofList (name.toList.filter isWordChar) ∧
            (identifier.name = name ↔ Plain name) := by
  have hvalid : (itemsIntent ["ORDERS", "Order Items"]).validate itemsSchema =
      .ok (itemsIntent ["orders", "order items"]) := rfl
  obtain ⟨query, hquery⟩ : ∃ query,
      generate "fecha" (itemsIntent ["orders", "order items"]) itemsSchema = .ok query := ⟨_, rfl⟩
  obtain ⟨sentence, htext, -, hnames, -⟩ := generate_tableNames hvalid hquery
  exact ⟨query, hvalid, hquery, sentence, htext, hnames⟩

/-- A query about the table with the blank is written about a table that is not in the schema. -/
theorem altered_order_items :
    ∃ query,
      (itemsIntent ["order items"]).validate itemsSchema = .ok (itemsIntent ["order items"]) ∧
      generate "fecha" (itemsIntent ["order items"]) itemsSchema = .ok query ∧
      ∀ sentence : Sentence, sentence.text = query.sql.toList →
        sentence.anchor.name = "orderitems" ∧ "orderitems" ∉ itemsSchema.tableNames := by
  obtain ⟨query, hquery⟩ : ∃ query,
      generate "fecha" (itemsIntent ["order items"]) itemsSchema = .ok query := ⟨_, rfl⟩
  have hcanonical : itemsSchema.Canonical "order items" := ⟨_, rfl, rfl⟩
  obtain ⟨parsed, -, hunique, hanchor, -⟩ := exists_sentence_of_generate hquery rfl hcanonical
  refine ⟨query, rfl, hquery, fun sentence htext => ⟨?_, by decide⟩⟩
  rw [hunique sentence htext, hanchor]
  decide

end PlainQuery.Sql
