import Mathlib.Algebra.Ring.Nat
import Mathlib.Order.Bounds.Basic
import PlainQuery.Proofs.Result.Columns
import PlainQuery.Proofs.Text.Blank

/-!
# The table of plain text is aligned

Each column of the table is as wide as its widest text, and each line has its cells where the
columns begin.  The two halves are proved apart:

* `FitWidths` says that there is a width for each column and that it is the greatest length in it.
  The widths are found by going through the rows, so they are followed row by row: the names of the
  columns fit by themselves (`fitWidths_names`), and one more row widens the columns as it has to
  (`FitWidths.concat`).  The result is `fitWidths_columnWidths`.
* `FullLine` says of a line that it is as wide as the table and that each cell stands as a whole
  where its column begins, with blanks up to the width of the column and the bar behind it.  A line
  is followed column by column from the left: `FullLine.cons` puts a column in front, which moves
  the beginnings of all others by its width and the three characters of the bar.

The lines that are written have lost the white space at their ends, so an `AlignedLine` is a full
one without it.  How much goes depends on the last cell alone, which may have blanks of its own; the
width of the table and the rule under the names are not touched by this (`ruleLine_eq`).

`textTable_aligned` is about all results that are shown as a table, and about any number of rows.
-/

namespace PlainQuery.QueryResult

variable {columnNames : List String} {cells row : List String} {rows : List (List String)}
  {widths : List Nat} {width columns : Nat} {cell : String} {line : List Char}

/-! ## Widths -/

/-- The lengths of the texts in a column. -/
def columnLengths (rows : List (List String)) (column : Nat) : Set Nat :=
  {length | ∃ row ∈ rows, ∃ cell, row[column]? = some cell ∧ cell.length = length}

/-- There is a width for each column, and it is the length of the widest text in it. -/
structure FitWidths (columns : Nat) (rows : List (List String)) (widths : List Nat) : Prop where
  length_eq : widths.length = columns
  greatest : ∀ {column width}, widths[column]? = some width →
    IsGreatest (columnLengths rows column) width

/-- The widths after one more row. -/
def widen (widths : List Nat) (row : List String) : List Nat :=
  (widths.zip row).map fun (width, cell) => max width cell.length

theorem columnWidths_eq (columnNames : List String) (rows : List (List String)) :
    columnWidths columnNames rows = rows.foldl widen (columnNames.map String.length) := rfl

theorem columnLengths_concat {column : Nat} (hcell : row[column]? = some cell) :
    columnLengths (rows ++ [row]) column = columnLengths rows column ∪ {cell.length} := by
  ext length
  constructor
  · rintro ⟨other, hother, text, htext, hlength⟩
    rcases List.mem_append.mp hother with hrows | hrow
    · exact .inl ⟨other, hrows, text, htext, hlength⟩
    · rw [List.mem_singleton.mp hrow, hcell] at htext
      cases htext
      exact .inr hlength.symm
  · rintro (⟨other, hother, hrest⟩ | hlength)
    · exact ⟨other, List.mem_append_left _ hother, hrest⟩
    · exact ⟨row, List.mem_concat_self, cell, hcell, hlength.symm⟩

theorem fitWidths_names (columnNames : List String) :
    FitWidths columnNames.length [columnNames] (columnNames.map String.length) where
  length_eq := List.length_map _
  greatest := by
    intro column width hwidth
    rw [List.getElem?_map, Option.map_eq_some_iff] at hwidth
    obtain ⟨name, hname, rfl⟩ := hwidth
    refine ⟨⟨columnNames, List.mem_singleton_self _, name, hname, rfl⟩, ?_⟩
    rintro _ ⟨row, hrow, other, hother, rfl⟩
    rw [List.mem_singleton.mp hrow, hname] at hother
    cases hother
    exact Nat.le_refl _

theorem FitWidths.concat (h : FitWidths columns rows widths) (hrow : row.length = columns) :
    FitWidths columns (rows ++ [row]) (widen widths row) where
  length_eq := by
    rw [widen, List.length_map, List.length_zip, h.length_eq, hrow, Nat.min_self]
  greatest := by
    intro column width hwidth
    rw [widen, List.getElem?_map, Option.map_eq_some_iff] at hwidth
    obtain ⟨⟨before, cell⟩, hpair, rfl⟩ := hwidth
    rw [List.getElem?_zip_eq_some] at hpair
    rw [columnLengths_concat hpair.2]
    exact (h.greatest hpair.1).union isGreatest_singleton

theorem FitWidths.foldl (h : FitWidths columns rows widths) {later : List (List String)}
    (hlater : ∀ row ∈ later, row.length = columns) :
    FitWidths columns (rows ++ later) (later.foldl widen widths) := by
  induction later generalizing rows widths with
  | nil => rwa [List.append_nil]
  | cons row later ih =>
      rw [List.forall_mem_cons] at hlater
      have hnext := ih (h.concat hlater.1) hlater.2
      rwa [List.append_assoc] at hnext

theorem fitWidths_columnWidths (hrows : ∀ row ∈ rows, row.length = columnNames.length) :
    FitWidths columnNames.length (columnNames :: rows) (columnWidths columnNames rows) := by
  rw [columnWidths_eq]
  exact (fitWidths_names columnNames).foldl hrows

/-- Every cell of the table fits into its column. -/
theorem FitWidths.forall₂ (h : FitWidths columns rows widths) (hrow : row ∈ rows)
    (hlength : row.length = columns) :
    List.Forall₂ (fun width (cell : String) => cell.length ≤ width) widths row := by
  rw [List.forall₂_iff_get]
  refine ⟨h.length_eq.trans hlength.symm, fun column hwidth hcell => ?_⟩
  refine (h.greatest (List.getElem?_eq_getElem hwidth)).2 ⟨row, hrow, ?_⟩
  exact ⟨_, List.getElem?_eq_getElem hcell, rfl⟩

/-! ## Lines -/

/-- The width of the table: that of its columns, and three characters between neighbours. -/
def lineWidth (widths : List Nat) : Nat := widths.sum + 3 * (widths.length - 1)

/-- Where a column begins. -/
def columnStart (widths : List Nat) (column : Nat) : Nat :=
  ((widths.take column).map (· + 3)).sum

/-- What stands behind a column: a bar, unless it is the last one. -/
def separatorBehind (widths : List Nat) (column : Nat) : List Char :=
  if column + 1 < widths.length then " | ".toList else []

/-- The line is as wide as the table, and where a column begins stands its cell as a whole, with
blanks up to the width of the column. -/
structure FullLine (widths : List Nat) (cells : List String) (line : List Char) : Prop where
  columns : cells.length = widths.length
  length_eq : line.length = lineWidth widths
  cell : ∀ {column width cell}, widths[column]? = some width → cells[column]? = some cell →
    cell.length ≤ width ∧
      cell.toList ++ List.replicate (width - cell.length) ' ' ++ separatorBehind widths column <+:
        line.drop (columnStart widths column)

theorem length_padded (h : cell.length ≤ width) : (padded width cell).length = width := by
  rw [padded, List.length_append, String.length_toList, List.length_replicate]
  omega

theorem fullLine_nil : FullLine [] [] [] := ⟨rfl, rfl, nofun⟩

theorem fullLine_singleton (h : cell.length ≤ width) :
    FullLine [width] [cell] (padded width cell) where
  columns := rfl
  length_eq := by simp [lineWidth, length_padded h]
  cell := by
    intro column width' cell' hwidth hcell
    cases column with
    | zero =>
        cases hwidth
        cases hcell
        exact ⟨h, by simp [separatorBehind, columnStart, padded]⟩
    | succ column => cases hwidth

/-- A column in front of a line. -/
theorem FullLine.cons {second : Nat} (h : FullLine (second :: widths) cells line)
    (hcell : cell.length ≤ width) :
    FullLine (width :: second :: widths) (cell :: cells)
      (padded width cell ++ " | ".toList ++ line) where
  columns := congrArg Nat.succ h.columns
  length_eq := by
    have hline := h.length_eq
    have hpadded := length_padded hcell
    simp only [lineWidth, List.length_append, List.sum_cons, List.length_cons] at hline ⊢
    rw [hpadded, hline]
    simp
    omega
  cell := by
    intro column width' cell' hwidth hcell'
    cases column with
    | zero =>
        cases hwidth
        cases hcell'
        refine ⟨hcell, ?_⟩
        simp only [columnStart, separatorBehind, List.take_zero, List.map_nil, List.sum_nil,
          List.drop_zero, List.length_cons]
        rw [if_pos (by omega)]
        exact List.prefix_append _ _
    | succ column =>
        -- the rest of the line begins behind the first column and its bar
        obtain ⟨hfits, hprefix⟩ := h.cell hwidth hcell'
        refine ⟨hfits, ?_⟩
        have hfront : (padded width cell ++ " | ".toList).length = width + 3 := by
          rw [List.length_append, length_padded hcell]
          rfl
        have hstart : columnStart (width :: second :: widths) (column + 1) =
            (padded width cell ++ " | ".toList).length + columnStart (second :: widths) column := by
          rw [hfront]
          rfl
        have hbehind : separatorBehind (width :: second :: widths) (column + 1) =
            separatorBehind (second :: widths) column := by
          simp [separatorBehind]
        rw [hstart, hbehind, List.drop_length_add_append]
        exact hprefix

/-- The cells in their columns, before the blanks at the end are taken away. -/
def spread (widths : List Nat) (cells : List String) : List Char :=
  " | ".toList.intercalate ((widths.zip cells).map fun (width, cell) => padded width cell)

theorem spread_singleton (width : Nat) (cell : String) :
    spread [width] [cell] = padded width cell := by
  simp [spread]

theorem spread_cons_cons (width second : Nat) (cell other : String) :
    spread (width :: second :: widths) (cell :: other :: cells) =
      padded width cell ++ " | ".toList ++ spread (second :: widths) (other :: cells) :=
  List.intercalate_cons_cons

theorem fullLine_spread
    (h : List.Forall₂ (fun width (cell : String) => cell.length ≤ width) widths cells) :
    FullLine widths cells (spread widths cells) := by
  induction h with
  | nil => exact fullLine_nil
  | @cons width cell widths cells hcell hothers ih =>
      cases hothers with
      | nil =>
          rw [spread_singleton]
          exact fullLine_singleton hcell
      | cons hother hothers =>
          rw [spread_cons_cons]
          exact ih.cons hcell

/-! ## The table -/

/-- The line is a full one without the white space at its end. -/
def AlignedLine (widths : List Nat) (cells : List String) (line : String) : Prop :=
  ∃ full, FullLine widths cells full ∧ Text.StripsEnd full line.toList

theorem alignedLine_aligned
    (h : List.Forall₂ (fun width (cell : String) => cell.length ≤ width) widths cells) :
    AlignedLine widths cells (alignedLine widths cells) := by
  refine ⟨spread widths cells, fullLine_spread h, ?_⟩
  rw [alignedLine, String.toList_ofList]
  exact Text.stripsEnd_stripEnd _

/-- The line that counts the rows that are left out, if there are any. -/
def moreLines (shown rowCount : Nat) : List String :=
  if shown < rowCount then ["... and " ++ toString (rowCount - shown) ++ " more rows"] else []

/-- The table has aligned lines for the names of the columns and for each row, a rule of their full
width between them, and a line that counts the rows that are left out, if there are any. -/
def AlignedTable (columnNames : List String) (rowCount : Nat) (rows : List (List String))
    (table : String) : Prop :=
  ∃ widths header lines,
    FitWidths columnNames.length (columnNames :: rows) widths ∧
    AlignedLine widths columnNames header ∧
    List.Forall₂ (AlignedLine widths) rows lines ∧
    table = Text.joined "\n"
      (header :: String.ofList (List.replicate (lineWidth widths) '-') :: lines ++
        moreLines rows.length rowCount)

theorem ruleLine_eq (widths : List Nat) :
    ruleLine widths = String.ofList (List.replicate (lineWidth widths) '-') := by
  rw [ruleLine, lineWidth, List.sum_eq_foldl]

theorem textLines_eq (hcolumns : columnNames ≠ []) (rowCount : Nat) :
    textLines columnNames rowCount rows =
      alignedLine (columnWidths columnNames rows) columnNames ::
        ruleLine (columnWidths columnNames rows) ::
          rows.map (alignedLine (columnWidths columnNames rows)) ++
        moreLines rows.length rowCount := by
  rw [textLines, List.isEmpty_eq_false_iff.mpr hcolumns]
  rfl

theorem alignedTable_textLines (hcolumns : columnNames ≠ []) (rowCount : Nat)
    (hrows : ∀ row ∈ rows, row.length = columnNames.length) :
    AlignedTable columnNames rowCount rows
      (Text.joined "\n" (textLines columnNames rowCount rows)) := by
  have hwidths := fitWidths_columnWidths hrows
  have hline : ∀ row ∈ columnNames :: rows, row.length = columnNames.length →
      AlignedLine (columnWidths columnNames rows) row
        (alignedLine (columnWidths columnNames rows) row) :=
    fun row hrow hlength => alignedLine_aligned (hwidths.forall₂ hrow hlength)
  refine ⟨columnWidths columnNames rows, _, rows.map (alignedLine (columnWidths columnNames rows)),
    hwidths, hline columnNames List.mem_cons_self rfl, ?_, ?_⟩
  · rw [List.forall₂_map_right_iff, List.forall₂_same]
    exact fun row hrow => hline row (List.mem_cons_of_mem _ hrow) (hrows row hrow)
  · rw [textLines_eq hcolumns, ruleLine_eq]

variable {result : QueryResult}

theorem length_of_mem_shownRows {null : String} {limit : Nat}
    (hrow : row ∈ result.shownRows null limit) : row.length = result.columnNames.length := by
  obtain ⟨values, -, rfl⟩ := List.mem_map.mp hrow
  exact List.length_map _

/-- **The table of plain text is aligned.**  Whatever the cells are and however many rows are shown,
each column is as wide as its widest text, and each line of the table has its cells at the places
where the columns begin. -/
theorem textTable_aligned (hsuccess : result.success = true) (hcount : result.rowCount ≠ 0)
    (hcolumns : result.columnNames ≠ []) (limit : Nat) :
    AlignedTable result.columnNames result.rowCount (result.shownRows "NULL" limit)
      (result.textTable limit) := by
  rw [textTable_eq limit (sentence?_eq_none hsuccess hcount)]
  exact alignedTable_textLines hcolumns _ fun row => length_of_mem_shownRows

/-- Three machines: a name with blanks at its end and letters beyond ASCII, a name alone, and an
absent total. -/
def machines : QueryResult :=
  .ofRows ["tipo de máquina", "total"]
    [[("tipo de máquina", .string "Grúa  "), ("total", .ofNat 1234567)],
      [("tipo de máquina", .string "Excavadora")],
      [("tipo de máquina", .string ""), ("total", .null)]]
    false (.ofNat 0)

theorem aligned_machines :
    machines.success = true ∧ machines.rowCount ≠ 0 ∧ machines.columnNames ≠ [] ∧
      machines.textTable 2 =
        "tipo de máquina | total\n---------------------------\n" ++
          "Grúa            | 1,234,567\nExcavadora      |\n... and 1 more rows" ∧
      AlignedTable ["tipo de máquina", "total"] 3 [["Grúa  ", "1,234,567"], ["Excavadora", ""]]
        (machines.textTable 2) := by
  have hcount : machines.rowCount ≠ 0 := by decide
  have hcolumns : machines.columnNames ≠ [] := by decide
  have hrows : machines.shownRows "NULL" 2 = [["Grúa  ", "1,234,567"], ["Excavadora", ""]] := by
    decide
  refine ⟨rfl, hcount, hcolumns, by decide, ?_⟩
  rw [← hrows]
  exact textTable_aligned rfl hcount hcolumns 2

end PlainQuery.QueryResult
