import Mathlib.Data.List.Perm.Basic
import PlainQuery.Proofs.Catalog.KeyTexts

/-!
# What the constraints of a database say about its columns

Each constraint tells a key as a text.  The index is made from the constraints one after the other,
so a question to it is a question to the keys that they tell:

* a column is primary if some primary key of its table lists it (`mem_primary_iff`);
* it refers to what the first foreign key says that covers it, and there to the partner at the first
  position at which it is listed (`lookup_foreign`, `TableKey.reference?`).

Both are proved for one constraint, whose text is read by `Proofs.Catalog.KeyTexts`, and carried
over to the whole list: membership along `flatMap`, the lookup along `findSome?`
(`lookup_flatMap`).  `markedBy_mark` says of one column what the index makes of it, without
reference to an index.

The order of the constraints matters for the first foreign key only.  If no two foreign keys cover a
column, there is no first one to look for (`findSome?_perm`), and the column is marked the same in
every order (`mark_perm`).  `apply_tells` says this of all columns of a catalog.
-/

namespace PlainQuery

/-! ## Keys and columns -/

namespace TableKey

variable {column : CatalogColumn}

/-- The key is a primary key of the column's table and lists the column. -/
def Primary (column : CatalogColumn) : TableKey → Prop
  | primary table columns => Text.lower table = Text.lower column.table ∧
      ∃ name ∈ columns, Text.lower name = Text.lower column.column
  | foreign .. => False

/-- The table and the column that a foreign key of the column's table refers the column to: the
partner at the first position at which it lists the column. -/
def reference? (column : CatalogColumn) : TableKey → Option (String × String)
  | primary .. => none
  | foreign table pairs target =>
    if Text.lower table = Text.lower column.table then
      (pairs.find? fun pair => Text.lower pair.1 = Text.lower column.column).map fun pair =>
        (target, pair.2)
    else none

/-- The key is a foreign key of the column's table and lists the column. -/
def Covers (column : CatalogColumn) (key : TableKey) : Prop := (key.reference? column).isSome

end TableKey

/-- The column as the keys mark it: by every primary key, and by the first foreign key on it. -/
structure CatalogColumn.MarkedBy (keys : List TableKey) (column marked : CatalogColumn) : Prop where
  primary : marked.primaryKey = true ↔ ∃ key ∈ keys, key.Primary column
  reference : ∀ target partner,
    keys.findSome? (TableKey.reference? column) = some (target, partner) →
      marked.foreignTable = some target ∧ marked.foreignColumn = some partner
  unreferenced : (∀ key ∈ keys, ¬ key.Covers column) →
    marked.foreignTable = column.foreignTable ∧ marked.foreignColumn = column.foreignColumn
  others : marked.table = column.table ∧ marked.column = column.column ∧
    marked.dataType = column.dataType ∧ marked.nullable = column.nullable

namespace KeyIndex

open KeyText (Tells)

variable {column : CatalogColumn} {constraint : KeyConstraint} {key : TableKey}
  {constraints others : List KeyConstraint} {keys : List TableKey}

/-- The key under which the index has the column. -/
def keyOf (column : CatalogColumn) : ColumnKey := columnKey column.table column.column

theorem columnKey_eq_iff {table name : String} :
    columnKey table name = keyOf column ↔
      Text.lower table = Text.lower column.table ∧ Text.lower name = Text.lower column.column :=
  Prod.mk.injEq .. ▸ Iff.rfl

theorem mem_primaryColumns_iff (htells : Tells constraint key) :
    keyOf column ∈ primaryColumns constraint ↔ key.Primary column := by
  cases htells with
  | primary hkind hcolumns hhead hlist hbehind htext =>
      rw [primaryColumns, if_pos hkind, htext,
        KeyText.primaryKey?_of_tells hhead hlist hcolumns hbehind, Option.getD_some]
      simp only [List.mem_map, columnKey_eq_iff, TableKey.Primary]
      tauto
  | foreign hkind =>
      rw [primaryColumns, if_neg (by simp [hkind])]
      simp [TableKey.Primary]

theorem lookup_pairs (table target : String) (pairs : List (String × String)) :
    (pairs.map fun pair => (columnKey table pair.1, (target, pair.2))).lookup (keyOf column) =
      (TableKey.foreign table pairs target).reference? column := by
  induction pairs with
  | nil => simp [TableKey.reference?]
  | cons pair pairs ih =>
      rw [TableKey.reference?] at ih ⊢
      rw [List.map_cons, List.lookup_cons, List.find?_cons]
      by_cases hpair : columnKey table pair.1 = keyOf column
      · obtain ⟨htable, hname⟩ := columnKey_eq_iff.mp hpair
        simp [hpair, htable, hname]
      · have hne : (keyOf column == columnKey table pair.1) = false :=
          beq_eq_false_iff_ne.mpr (Ne.symm hpair)
        rw [columnKey_eq_iff, not_and] at hpair
        rw [hne, ih]
        by_cases htable : Text.lower table = Text.lower column.table
        · simp [htable, hpair htable]
        · simp [htable]

theorem lookup_foreignColumns (htells : Tells constraint key) :
    (foreignColumns constraint).lookup (keyOf column) = key.reference? column := by
  cases htells with
  | primary hkind =>
      rw [foreignColumns, if_pos hkind]
      rfl
  | foreign hkind hpairs htarget hhead hlist hreference htext =>
      rw [foreignColumns, if_neg (by simp [hkind]), htext,
        KeyText.foreignKey?_of_tells hpairs htarget hhead hlist hreference]
      dsimp only
      rw [List.zip_map', List.map_id']
      exact lookup_pairs _ _ _

/-! ## The index -/

theorem lookup_flatMap {α : Type} (entries : α → List (ColumnKey × (String × String)))
    (items : List α) (key : ColumnKey) :
    (items.flatMap entries).lookup key = items.findSome? fun item => (entries item).lookup key := by
  induction items with
  | nil => rfl
  | cons item items ih =>
      rw [List.flatMap_cons, List.lookup_append, ih, List.findSome?_cons]
      cases (entries item).lookup key <;> rfl

theorem map_lookup_foreignColumns (htells : List.Forall₂ Tells constraints keys)
    (column : CatalogColumn) :
    (constraints.map fun constraint => (foreignColumns constraint).lookup (keyOf column)) =
      keys.map (TableKey.reference? column) := by
  induction htells with
  | nil => rfl
  | cons hkey _ ih => rw [List.map_cons, List.map_cons, lookup_foreignColumns hkey, ih]

/-- The index has for a column what the first key says that covers it. -/
theorem lookup_foreign (htells : List.Forall₂ Tells constraints keys) (column : CatalogColumn) :
    (ofConstraints constraints).foreign.lookup (keyOf column) =
      keys.findSome? (TableKey.reference? column) := by
  have hmap := congrArg (List.findSome? id) (map_lookup_foreignColumns htells column)
  rw [List.findSome?_map, List.findSome?_map] at hmap
  exact (lookup_flatMap _ _ _).trans hmap

theorem mem_primary_iff (htells : List.Forall₂ Tells constraints keys) (column : CatalogColumn) :
    keyOf column ∈ (ofConstraints constraints).primary ↔ ∃ key ∈ keys, key.Primary column := by
  rw [ofConstraints, List.mem_flatMap]
  induction htells with
  | nil => simp
  | cons hkey _ ih =>
      simp only [List.mem_cons, exists_eq_or_imp, ih, mem_primaryColumns_iff hkey]

/-- **What a marked column says.** -/
theorem markedBy_mark (htells : List.Forall₂ Tells constraints keys) (column : CatalogColumn) :
    column.MarkedBy keys ((ofConstraints constraints).mark column) := by
  have hprimary := mem_primary_iff htells column
  rw [← List.contains_iff_mem] at hprimary
  have hlookup := lookup_foreign htells column
  rw [keyOf] at hprimary hlookup
  rw [mark]
  simp only [hlookup]
  cases hreference : keys.findSome? (TableKey.reference? column) with
  | none =>
      refine ⟨hprimary, fun target partner hsome => ?_, fun _ => ⟨rfl, rfl⟩, rfl, rfl, rfl, rfl⟩
      cases hreference.symm.trans hsome
  | some reference =>
      refine ⟨hprimary, fun target partner hsome => ?_, fun hcovers => ?_, rfl, rfl, rfl, rfl⟩
      · cases hreference.symm.trans hsome
        exact ⟨rfl, rfl⟩
      · -- a reference comes from a key that covers the column
        obtain ⟨key, hkey, hsome⟩ := List.exists_of_findSome?_eq_some hreference
        exact absurd (by rw [TableKey.Covers, hsome, Option.isSome_some]) (hcovers key hkey)

/-! ## The order of the constraints -/

theorem mark_congr {first second : KeyIndex}
    (hprimary : keyOf column ∈ first.primary ↔ keyOf column ∈ second.primary)
    (hforeign : first.foreign.lookup (keyOf column) = second.foreign.lookup (keyOf column)) :
    first.mark column = second.mark column := by
  have hcontains : first.primary.contains (keyOf column) =
      second.primary.contains (keyOf column) := by
    rw [Bool.eq_iff_iff, List.contains_iff_mem, List.contains_iff_mem, hprimary]
  rw [keyOf] at hcontains hforeign
  rw [mark, mark]
  simp only [hcontains, hforeign]

/-- Of answers of which at most one is there, the first does not depend on the order. -/
theorem findSome?_perm {α β : Type} {answer : α → Option β} {first second : List α}
    (hperm : first.Perm second)
    (hsingle : first.Pairwise fun one other => answer one = none ∨ answer other = none) :
    first.findSome? answer = second.findSome? answer := by
  induction hperm with
  | nil => rfl
  | cons item _ ih =>
      rw [List.findSome?_cons, List.findSome?_cons, ih (List.pairwise_cons.mp hsingle).2]
  | swap one other items =>
      have hpair := (List.pairwise_cons.mp hsingle).1 one List.mem_cons_self
      simp only [List.findSome?_cons]
      rcases hpair with hnone | hnone <;> simp only [hnone]
  | trans hfirst _ ih ih' =>
      rw [ih hsingle]
      exact ih' ((hfirst.pairwise_iff fun h => h.symm).mp hsingle)

theorem mark_perm (htells : List.Forall₂ Tells constraints keys) (hperm : others.Perm constraints)
    (hsingle : keys.Pairwise fun first second => ¬ (first.Covers column ∧ second.Covers column)) :
    (ofConstraints others).mark column = (ofConstraints constraints).mark column := by
  have hpairs : constraints.Pairwise fun first second =>
      (foreignColumns first).lookup (keyOf column) = none ∨
        (foreignColumns second).lookup (keyOf column) = none := by
    have hkeys : (keys.map (TableKey.reference? column)).Pairwise
        fun first second => first = none ∨ second = none :=
      List.pairwise_map.mpr (hsingle.imp fun {first second} hnot => by
        simp only [TableKey.Covers, Option.isSome_iff_ne_none] at hnot
        tauto)
    rw [← map_lookup_foreignColumns htells column, List.pairwise_map] at hkeys
    exact hkeys
  refine mark_congr (hperm.flatMap_right primaryColumns).mem_iff ?_
  rw [ofConstraints, ofConstraints, lookup_flatMap, lookup_flatMap]
  exact (findSome?_perm hperm.symm hpairs).symm

/-- **The keys are decoded to the right columns.**  If constraints tell keys, laid out in whatever
way the patterns allow, then applying their index marks every column as the keys do.  In another
order the constraints mark the columns in the same way, unless two foreign keys cover one of
them. -/
theorem apply_tells {constraints : List KeyConstraint} {keys : List TableKey}
    (htells : List.Forall₂ Tells constraints keys) (columns : List CatalogColumn) :
    List.Forall₂ (CatalogColumn.MarkedBy keys) columns
        ((ofConstraints constraints).apply columns) ∧
      ∀ others : List KeyConstraint, others.Perm constraints →
        (∀ column ∈ columns, keys.Pairwise fun first second =>
          ¬ (first.Covers column ∧ second.Covers column)) →
        (ofConstraints others).apply columns = (ofConstraints constraints).apply columns := by
  constructor
  · exact List.forall₂_map_right_iff.mpr
      (List.forall₂_same.mpr fun column _ => markedBy_mark htells column)
  · intro others hperm hsingle
    exact List.map_congr_left fun column hmem => mark_perm htells hperm (hsingle column hmem)

/-- A foreign key over two columns, in a layout of its own, and a primary key. -/
def linesConstraints : List KeyConstraint :=
  [⟨"Lines", "FOREIGN KEY",
      "foreign  Key (\"Order \"\"Id\", line_no)\nREFERENCES main . \"Orders\"(id,\"No\") "⟩,
    ⟨"lines", "primary key", "PRIMARY KEY( LINE_NO )"⟩]

/-- What they tell. -/
def linesKeys : List TableKey :=
  [.foreign "Lines" [("Order \"Id", "id"), ("line_no", "No")] "Orders",
    .primary "lines" ["LINE_NO"]]

open KeyText in
theorem tells_lines : List.Forall₂ Tells linesConstraints linesKeys := by
  have hforeign : Heading "foreign" "key"
      ([] ++ ("foreign".toList ++ ("  ".toList ++ ("Key".toList ++ " ".toList)))) :=
    .mk (by decide) (by decide) (by decide) (by decide) (by decide) (by decide)
  have hprimary : Heading "primary" "key"
      ([] ++ ("PRIMARY".toList ++ (" ".toList ++ ("KEY".toList ++ [])))) :=
    .mk (by decide) (by decide) (by decide) (by decide) (by decide) (by decide)
  have hbare : ∀ name : String, Simple name → '"' ∉ name.toList → Text.Trimmed name.toList →
      Spelling name.toList name.toList := fun name hsimple hquote htrimmed =>
    .bare (fun hnil => hsimple.nonempty (String.toList_eq_nil_iff.mp hnil)) hquote htrimmed
  have hpadded : ∀ name : String, Simple name → '"' ∉ name.toList → Text.Trimmed name.toList →
      Entry name ([' '] ++ (name.toList ++ [' '])) := fun name hsimple hquote htrimmed =>
    .padded (by decide) (hbare name hsimple hquote htrimmed) (by decide)
  have htable : TargetText "Orders" ("main ".toList ++ '.' :: " \"Orders\"".toList) :=
    .qualified (by decide : Simple "main")
      (.padded (by decide : Blanks []) (hbare "main" (by decide) (by decide) (by decide))
        (by decide : Blanks [' ']))
      (.padded (by decide : Blanks [' ']) .quoted (by decide : Blanks []))
  have hcolumns : Lists ["Order \"Id", "line_no"]
      ("\"Order \"\"Id\"".toList ++ ',' :: " line_no".toList) :=
    .cons (entry_quoteName "Order \"Id")
      (.single
        ((Entry.of_spelling (hbare "line_no" (by decide) (by decide) (by decide))).append_blanks
          (by decide : Blanks [' '])))
  have htargets : Lists ["id", "No"] ("id".toList ++ ',' :: "\"No\"".toList) :=
    .cons (.of_spelling (hbare "id" (by decide) (by decide) (by decide)))
      (.single (entry_quoteName "No"))
  have hreference : ReferenceText "Orders" ["id", "No"] (enclosed
      (['\n'] ++ ("REFERENCES".toList ++
        ([' '] ++ ("main ".toList ++ '.' :: " \"Orders\"".toList))))
      ("id".toList ++ ',' :: "\"No\"".toList) [' ']) :=
    .mk (by decide) (by decide) (by decide) (by decide) htable htargets (by decide)
  -- the first constraint tells the foreign key, the second one the primary key
  exact .cons (.foreign (by decide) (by decide) (by decide) hforeign hcolumns hreference rfl)
    (.cons (.primary (by decide) (by decide) hprimary
      (.single (hpadded "LINE_NO" (by decide) (by decide) (by decide))) (by decide : Blanks []) rfl)
      .nil)

/-- Quotes, blanks, letter case and the schema are read over, the partners are told apart by their
positions, and the two constraints may come in either order. -/
theorem apply_tells_lines :
    let columns : List CatalogColumn :=
      [{ table := "LINES", column := "Order \"id" }, { table := "lines", column := "Line_No" }]
    let marked : List CatalogColumn :=
      [{ table := "LINES", column := "Order \"id", foreignTable := some "Orders",
          foreignColumn := some "id" },
        { table := "lines", column := "Line_No", primaryKey := true, foreignTable := some "Orders",
          foreignColumn := some "No" }]
    List.Forall₂ Tells linesConstraints linesKeys ∧
      List.Forall₂ (CatalogColumn.MarkedBy linesKeys) columns marked ∧
      (ofConstraints linesConstraints.reverse).apply columns = marked := by
  intro columns marked
  have hmarked : (ofConstraints linesConstraints).apply columns = marked := by decide +kernel
  obtain ⟨hmarks, hperm⟩ := apply_tells tells_lines columns
  rw [hmarked] at hmarks hperm
  refine ⟨tells_lines, hmarks, hperm _ (List.reverse_perm _) ?_⟩
  intro column _
  -- a primary key covers no column, so there are no two keys that do
  exact List.Pairwise.cons (by simp [TableKey.Covers, TableKey.reference?])
    (List.pairwise_singleton _ _)

end KeyIndex

end PlainQuery
