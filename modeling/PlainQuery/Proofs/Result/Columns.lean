import PlainQuery.Proofs.Result.Execution
import PlainQuery.Result.Table

/-!
# Columns from the database to the display

A delivery has its cells by position, a row of a result has its values by name.  A name of several
columns is given the value of the last of them, so on the way from one to the other values can get
lost.  This file says exactly when they do not.

* Seen from the front, a column is overruled by the later ones of its name (`get?_rowOf_cons`).  So
  the last column of a name finds its value in the row, at whatever position it is
  (`get?_rowOf_of_last`).
* A row gives every column its own value (`Row.Attributes`) exactly if the columns `Agree`: those of
  one name have one value (`attributes_rowOf_iff`).  Columns with distinct names always agree
  (`Agree.of_nodup`).

What the tables show of a result depends on the texts of its rows only, which is said by rewriting
both tables in lines over given texts (`textTable_eq` with `textLines`, `markdownTable_eq` with
`markdownLines`); the modules about the two tables start from there.  If the columns agree, these
are the texts of the cells that were delivered, column by column (`Row.Attributes.shownCells_eq`),
so that `capture_keeps` leads from a delivery to what is seen of it.  `unattributed_count` is a
delivery whose columns do not agree.
-/

namespace PlainQuery

/-- Each row has a cell for each column. -/
def Delivery.Rectangular (delivery : Delivery) : Prop :=
  ∀ cells ∈ delivery.rows, cells.length = delivery.columnNames.length

instance (delivery : Delivery) : Decidable delivery.Rectangular :=
  inferInstanceAs (Decidable (∀ cells ∈ delivery.rows, _))

/-- Columns of one name have one value. -/
def Agree (columnNames : List String) (cells : List Cell) : Prop :=
  ∀ first ∈ columnNames.zip cells, ∀ second ∈ columnNames.zip cells,
    first.1 = second.1 → first.2.toJson = second.2.toJson

/-- Each column finds the value of its own cell under its name. -/
def Row.Attributes (row : Row) (columnNames : List String) (cells : List Cell) : Prop :=
  List.Forall₂ (fun name cell => row.get? name = some cell.toJson) columnNames cells

/-- What a row has of the cells it was made from. -/
structure Row.Keeps (row : Row) (columnNames : List String) (cells : List Cell) : Prop where
  /-- A column that no later one shares its name with finds its value. -/
  last : ∀ {column name cell}, columnNames[column]? = some name → cells[column]? = some cell →
    name ∉ columnNames.drop (column + 1) → row.get? name = some cell.toJson
  attributes_iff : row.Attributes columnNames cells ↔ Agree columnNames cells

variable {columnNames : List String} {cells : List Cell} {row : Row} {name : String} {cell : Cell}

/-! ## Rows -/

theorem Agree.of_nodup (hnames : columnNames.Nodup) (hlength : columnNames.length = cells.length) :
    Agree columnNames cells := by
  intro first hfirst second hsecond hname
  have hnodup : ((columnNames.zip cells).map Prod.fst).Nodup := by
    rwa [List.map_fst_zip hlength.le]
  rw [List.inj_on_of_nodup_map hnodup hfirst hsecond hname]

/-- The value of a name is that of a column of this name. -/
theorem exists_of_get?_rowOf {value : Json} (h : (rowOf columnNames cells).get? name = some value) :
    ∃ cell, (name, cell) ∈ columnNames.zip cells ∧ cell.toJson = value := by
  rw [Row.holds_rowOf, List.lookup_eq_some_iff] at h
  obtain ⟨later, earlier, hpairs, -⟩ := h
  have hmem : (name, value) ∈ columnNames.zip (cells.map Cell.toJson) := by
    rw [← List.mem_reverse, hpairs]
    exact List.mem_append_right _ List.mem_cons_self
  rw [List.zip_map_right] at hmem
  obtain ⟨⟨name', cell⟩, hcell, heq⟩ := List.mem_map.mp hmem
  cases heq
  exact ⟨cell, hcell, rfl⟩

theorem exists_get?_rowOf (hcell : (name, cell) ∈ columnNames.zip cells) :
    ∃ value, (rowOf columnNames cells).get? name = some value := by
  rw [← Option.ne_none_iff_exists', ne_eq, Row.holds_rowOf, List.lookup_eq_none_iff]
  intro hnone
  have hmem : (name, cell.toJson) ∈ (columnNames.zip (cells.map Cell.toJson)).reverse := by
    rw [List.mem_reverse, List.zip_map_right]
    exact List.mem_map_of_mem hcell
  simpa using hnone _ hmem

/-- The row gives a value to each column exactly if the columns of one name have one. -/
theorem attributes_rowOf_iff (hlength : columnNames.length = cells.length) :
    Row.Attributes (rowOf columnNames cells) columnNames cells ↔ Agree columnNames cells := by
  rw [Row.Attributes, List.forall₂_iff_zip]
  constructor
  · rintro ⟨-, hrow⟩ first hfirst second hsecond hname
    have heq := hname ▸ hrow hfirst
    rw [hrow hsecond] at heq
    exact (Option.some.inj heq).symm
  · refine fun hagree => ⟨hlength, fun {name cell} hcell => ?_⟩
    obtain ⟨value, hvalue⟩ := exists_get?_rowOf hcell
    obtain ⟨other, hother, rfl⟩ := exists_of_get?_rowOf hvalue
    rw [hvalue, hagree _ hother _ hcell rfl]

/-- A column is overruled by the later ones of its name. -/
theorem get?_rowOf_cons (name first : String) (columnNames : List String) (cell : Cell)
    (cells : List Cell) :
    (rowOf (first :: columnNames) (cell :: cells)).get? name =
      ((rowOf columnNames cells).get? name).or
        (if name = first then some cell.toJson else none) := by
  rw [Row.holds_rowOf, Row.holds_rowOf, List.map_cons, List.zip_cons_cons, List.reverse_cons,
    List.lookup_append, List.lookup_cons, List.lookup_nil]
  by_cases hname : name = first
  · rw [if_pos hname, beq_iff_eq.mpr hname]
  · rw [if_neg hname, beq_eq_false_iff_ne.mpr hname]

theorem get?_rowOf_of_last {column : Nat} (hname : columnNames[column]? = some name)
    (hcell : cells[column]? = some cell) (hlast : name ∉ columnNames.drop (column + 1)) :
    (rowOf columnNames cells).get? name = some cell.toJson := by
  induction column generalizing columnNames cells with
  | zero =>
      obtain _ | ⟨first, later⟩ := columnNames
      · cases hname
      obtain _ | ⟨firstCell, laterCells⟩ := cells
      · cases hcell
      cases hname
      cases hcell
      -- a value under this name would be that of a later column
      have hnone : (rowOf later laterCells).get? name = none := by
        by_contra hsome
        obtain ⟨value, hvalue⟩ := Option.ne_none_iff_exists'.mp hsome
        obtain ⟨other, hother, -⟩ := exists_of_get?_rowOf hvalue
        exact hlast (List.of_mem_zip hother).1
      rw [get?_rowOf_cons, hnone, if_pos rfl, Option.none_or]
  | succ column ih =>
      obtain _ | ⟨first, later⟩ := columnNames
      · cases hname
      obtain _ | ⟨firstCell, laterCells⟩ := cells
      · cases hcell
      rw [get?_rowOf_cons, ih hname hcell hlast, Option.some_or]

theorem Row.keeps_rowOf (hlength : columnNames.length = cells.length) :
    Row.Keeps (rowOf columnNames cells) columnNames cells :=
  ⟨get?_rowOf_of_last, attributes_rowOf_iff hlength⟩

/-! ## Tables -/

namespace QueryResult

/-- The lines of a table of plain text with these cells, for a result of so many rows. -/
def textLines (columnNames : List String) (rowCount : Nat) (cells : List (List String)) :
    List String :=
  let widths := columnWidths columnNames cells
  (if columnNames.isEmpty then [] else [alignedLine widths columnNames, ruleLine widths]) ++
    cells.map (alignedLine widths) ++
    if cells.length < rowCount then
      ["... and " ++ toString (rowCount - cells.length) ++ " more rows"]
    else []

/-- The lines of a markdown table with these cells, for a result of so many rows. -/
def markdownLines (columnNames : List String) (rowCount : Nat) (cells : List (List String)) :
    List String :=
  [markdownLine columnNames, markdownRule columnNames.length] ++ cells.map markdownLine ++
    if cells.length < rowCount then
      ["\n*Showing " ++ toString cells.length ++ " of " ++ toString rowCount ++ " results*"]
    else []

/-- The texts of the first rows by the names of the columns. -/
def shownRows (null : String) (limit : Nat) (result : QueryResult) : List (List String) :=
  (result.rows.take limit).map (shownCells null result.columnNames)

variable {result : QueryResult}

theorem sentence?_eq_none (hsuccess : result.success = true) (hcount : result.rowCount ≠ 0) :
    result.sentence? = none := by
  have hnonempty : (result.rowCount == 0) = false := beq_eq_false_iff_ne.mpr hcount
  rw [sentence?, hsuccess, hnonempty]
  rfl

theorem textTable_eq (limit : Nat) (h : result.sentence? = none) :
    result.textTable limit = Text.joined "\n"
      (textLines result.columnNames result.rowCount (result.shownRows "NULL" limit)) := by
  rw [textTable, h]
  simp only [textLines, shownRows, List.length_map]

theorem markdownTable_eq (limit : Nat) (h : result.sentence? = none) :
    result.markdownTable limit = Text.joined "\n"
      (markdownLines result.columnNames result.rowCount (result.shownRows "-" limit)) := by
  rw [markdownTable, h]
  simp only [markdownLines, shownRows, List.length_map, List.map_map, Function.comp_def]

end QueryResult

/-- A cell as it is shown. -/
def Cell.shown (null : String) (cell : Cell) : String := Display.showValue null cell.toJson

/-- A row that gives each column its value shows the cells it was made from. -/
theorem Row.Attributes.shownCells_eq (h : row.Attributes columnNames cells) (null : String) :
    QueryResult.shownCells null columnNames row = cells.map (Cell.shown null) := by
  induction h with
  | nil => rfl
  | cons hvalue _ ih =>
      rw [QueryResult.shownCells] at ih ⊢
      rw [List.map_cons, List.map_cons, ih, hvalue]
      rfl

variable {delivery : Delivery}

theorem shownRows_capture {maxRows : Nat} (elapsed : Number.Double) (h : delivery.Rectangular)
    (hagree : ∀ cells ∈ delivery.rows.take maxRows, Agree delivery.columnNames cells)
    (null : String) (limit : Nat) :
    (capture maxRows elapsed delivery).shownRows null limit =
      ((delivery.rows.take maxRows).take limit).map fun cells => cells.map (Cell.shown null) := by
  have hresult := QueryResult.Shows.capture maxRows elapsed delivery
  rw [QueryResult.shownRows, hresult.rows, hresult.columnNames, ← List.map_take, List.map_map]
  refine List.map_congr_left fun cells hcells => ?_
  have hkept := List.mem_of_mem_take hcells
  have hlength := (h cells (List.mem_of_mem_take hkept)).symm
  exact ((attributes_rowOf_iff hlength).mpr (hagree cells hkept)).shownCells_eq null

/-- **Where the cells go.**  In a captured row the last column of a name finds its value, and all
columns find theirs exactly if those of one name have one value, which they have if the names are
distinct.  When the columns of the rows that are kept agree, both tables show the texts of their
cells by position. -/
theorem capture_keeps (maxRows : Nat) (elapsed : Number.Double) (h : delivery.Rectangular) :
    let kept := delivery.rows.take maxRows
    let result := capture maxRows elapsed delivery
    List.Forall₂ (fun cells row => Row.Keeps row delivery.columnNames cells) kept result.rows ∧
    (delivery.columnNames.Nodup → ∀ cells ∈ kept, Agree delivery.columnNames cells) ∧
    ((∀ cells ∈ kept, Agree delivery.columnNames cells) → kept ≠ [] → ∀ limit,
      result.textTable limit = Text.joined "\n" (QueryResult.textLines delivery.columnNames
        kept.length ((kept.take limit).map fun cells => cells.map (Cell.shown "NULL"))) ∧
      result.markdownTable limit = Text.joined "\n" (QueryResult.markdownLines delivery.columnNames
        kept.length ((kept.take limit).map fun cells => cells.map (Cell.shown "-")))) := by
  intro kept result
  have hresult := QueryResult.Shows.capture maxRows elapsed delivery
  have hlength : ∀ cells ∈ kept, delivery.columnNames.length = cells.length := fun cells hcells =>
    (h cells (List.mem_of_mem_take hcells)).symm
  refine ⟨?_, fun hnodup cells hcells => .of_nodup hnodup (hlength cells hcells), ?_⟩
  · rw [hresult.rows]
    exact List.forall₂_map_right_iff.mpr (List.forall₂_same.mpr fun cells hcells =>
      Row.keeps_rowOf (hlength cells hcells))
  · intro hagree hkept limit
    have hcount : result.rowCount = kept.length := by
      rw [hresult.rowCount, hresult.rows, List.length_map]
    have hnonempty : result.rowCount ≠ 0 := hcount ▸ mt List.length_eq_zero_iff.mp hkept
    have hsentence := QueryResult.sentence?_eq_none (rfl : result.success = true) hnonempty
    have hshown := shownRows_capture elapsed h hagree
    rw [QueryResult.textTable_eq limit hsentence, QueryResult.markdownTable_eq limit hsentence,
      hshown, hshown, hcount, hresult.columnNames]
    exact ⟨rfl, rfl⟩

/-- Orders with their customers: there is one number in the columns of one name. -/
theorem keeps_joinedOrders :
    let delivery : Delivery :=
      { columnNames := ["id", "total", "id"]
        batches := [[[.integer 1, .integer 2500, .integer 1]], [[.integer 2, .null, .integer 2]]] }
    let result := capture 1000 (.ofNat 0) delivery
    List.Forall₂ (fun cells row => Row.Keeps row delivery.columnNames cells)
      delivery.rows result.rows ∧
    result.textTable 1 = "id | total | id\n---------------\n1  | 2,500 | 1\n... and 1 more rows" ∧
    result.markdownTable 2 =
      "| id | total | id |\n|---|---|---|\n| 1 | 2,500 | 1 |\n| 2 | - | 2 |" := by
  intro delivery result
  obtain ⟨hrows, -, htables⟩ :=
    capture_keeps 1000 (.ofNat 0) (by decide : delivery.Rectangular)
  have hagree : ∀ cells ∈ delivery.rows, Agree delivery.columnNames cells := by
    simp only [delivery, Delivery.rows, Agree]
    grind
  have hshown := htables hagree (List.cons_ne_nil _ _)
  exact ⟨hrows, (hshown 1).1.trans (by decide), (hshown 2).2.trans (by decide)⟩

/-- A count and a sum under one name are both shown as the sum. -/
theorem unattributed_count :
    let delivery : Delivery :=
      { columnNames := ["n", "n"], batches := [[[.integer 3, .integer 60]]] }
    let result := capture 1000 (.ofNat 0) delivery
    delivery.Rectangular ∧
    ¬ List.Forall₂ (fun cells row => Row.Attributes row delivery.columnNames cells)
      delivery.rows result.rows ∧
    result.textTable 50 = "n  | n\n-------\n60 | 60" ∧
    result.markdownTable 30 = "| n | n |\n|---|---|\n| 60 | 60 |" := by
  intro delivery result
  refine ⟨by decide, ?_, by decide, by decide⟩
  rintro (_ | ⟨hrow, -⟩)
  obtain _ | ⟨hcount, -⟩ := hrow
  have hlast : "n" ∉ ["n", "n"].drop 2 := by decide
  have hsum : (rowOf ["n", "n"] [.integer 3, .integer 60]).get? "n" =
      some (Cell.integer 60).toJson := get?_rowOf_of_last rfl rfl hlast
  cases hsum.symm.trans hcount

end PlainQuery
