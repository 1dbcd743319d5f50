import PlainQuery.Proofs.Result.Alignment
import PlainQuery.Proofs.Result.MarkdownRows

/-!
# One row, one line

Both tables are made of one line for the names of the columns, a rule, one line for each row and a
trailer.  A line feed in a name or a cell is written as it is, though, and cuts its line in two.
The number of lines tells: joined texts have as many lines as there are texts exactly if none of
them has a line feed in it (`Text.length_flatMap_lines_eq_iff`).  So what remains is to say which
lines have one.

* In the markdown table every line feed stays (`line_mem_markdownLine_iff`).
* In the table of plain text a line loses the white space at its end, which can take line feeds of
  the last cell with it, but no others.  A line `BreaksLine` that has one in front of its last cell,
  or one in the last cell with more than white space behind it.  Since the bar in front of the last
  cell is no white space, nothing before it is lost (`stripEnd_append_bar`), and the induction goes
  along the cells to the last one (`line_mem_stripEnd_spread_iff`).
* The rule and the trailers have none.

`length_lines_tables_iff` says for both tables when the number of lines is what it should be, and
that the trailers are right in any case.  `length_lines_notes` has a row that keeps its line in one
table and breaks it in the other, and `broken_notes` one that breaks both.
-/

namespace PlainQuery.QueryResult

variable {columnNames cells : List String} {rows : List (List String)} {widths : List Nat}

/-! ## Lines of plain text -/

/-- A line feed in the cells stays in their line: it stands in front of the last cell, or there is
more than white space behind it. -/
def BreaksLine : List String → Prop
  | [] => False
  | [last] => '\n' ∈ Text.stripEnd last.toList
  | cell :: other :: later => '\n' ∈ cell.toList ∨ BreaksLine (other :: later)

instance decidableBreaksLine : DecidablePred BreaksLine
  | [] => isFalse id
  | [last] => inferInstanceAs (Decidable ('\n' ∈ Text.stripEnd last.toList))
  | cell :: other :: later =>
    @instDecidableOr ('\n' ∈ cell.toList) (BreaksLine (other :: later)) _
      (decidableBreaksLine (other :: later))

theorem line_mem_padded_iff {width : Nat} {cell : String} :
    '\n' ∈ padded width cell ↔ '\n' ∈ cell.toList := by
  simp [padded]

theorem stripEnd_padded (width : Nat) (cell : String) :
    Text.stripEnd (padded width cell) = Text.stripEnd cell.toList :=
  Text.stripEnd_append_blanks fun c hc => by
    rw [List.eq_of_mem_replicate hc]
    decide

/-- Nothing in front of a bar is lost at the end of its line. -/
theorem stripEnd_append_bar (front behind : List Char) :
    Text.stripEnd (front ++ " | ".toList ++ behind) =
      front ++ [' ', '|'] ++ Text.stripEnd (' ' :: behind) := by
  have hsplit : front ++ " | ".toList ++ behind = front ++ [' ', '|'] ++ ' ' :: behind := by simp
  have hlast : (front ++ [' ', '|']).getLast? = some '|' := by simp
  rw [hsplit, Text.stripEnd_append (by decide) hlast]

theorem line_mem_stripEnd_spread_iff (hlength : widths.length = cells.length) :
    '\n' ∈ Text.stripEnd (spread widths cells) ↔ BreaksLine cells := by
  induction cells generalizing widths with
  | nil => simp [spread, BreaksLine, Text.stripEnd]
  | cons cell cells ih =>
      obtain ⟨width, widths, rfl⟩ := List.exists_cons_of_length_eq_add_one hlength
      cases cells with
      | nil =>
          have hnil : widths = [] := by simpa using hlength
          rw [hnil, spread_singleton, stripEnd_padded, BreaksLine]
      | cons other cells =>
          obtain ⟨second, widths, rfl⟩ :=
            List.exists_cons_of_length_eq_add_one (Nat.succ.inj hlength)
          rw [spread_cons_cons, stripEnd_append_bar, List.mem_append, List.mem_append,
            line_mem_padded_iff, Text.mem_stripEnd_cons (by decide), ih (Nat.succ.inj hlength),
            BreaksLine]
          simp

theorem line_mem_alignedLine_iff (hlength : widths.length = cells.length) :
    '\n' ∈ (alignedLine widths cells).toList ↔ BreaksLine cells := by
  rw [alignedLine, String.toList_ofList]
  exact line_mem_stripEnd_spread_iff hlength

theorem line_not_mem_ruleLine (widths : List Nat) : '\n' ∉ (ruleLine widths).toList := by
  rw [ruleLine, String.toList_ofList]
  intro hmem
  exact absurd (List.eq_of_mem_replicate hmem) (by decide)

theorem line_not_mem_moreLines {shown rowCount : Nat} :
    ∀ line ∈ moreLines shown rowCount, '\n' ∉ line.toList := by
  intro line hline
  rw [moreLines] at hline
  split at hline
  · have hnumber := Text.line_not_mem_toString (rowCount - shown)
    rw [List.mem_singleton.mp hline]
    simp only [String.toList_append, List.mem_append, not_or]
    exact ⟨⟨by decide, hnumber⟩, by decide⟩
  · cases hline

theorem length_textLines (hcolumns : columnNames ≠ []) (rowCount : Nat) :
    (textLines columnNames rowCount rows).length =
      2 + rows.length + (moreLines rows.length rowCount).length := by
  rw [textLines_eq hcolumns, List.length_append, List.length_cons, List.length_cons,
    List.length_map]
  omega

theorem line_not_mem_textLines_iff (hcolumns : columnNames ≠ []) (rowCount : Nat)
    (hrows : ∀ row ∈ rows, row.length = columnNames.length) :
    (∀ line ∈ textLines columnNames rowCount rows, '\n' ∉ line.toList) ↔
      ∀ cells ∈ columnNames :: rows, ¬ BreaksLine cells := by
  have hwidths := (fitWidths_columnWidths hrows).length_eq
  have hline : ∀ cells ∈ columnNames :: rows,
      ('\n' ∉ (alignedLine (columnWidths columnNames rows) cells).toList ↔ ¬ BreaksLine cells) := by
    intro cells hcells
    refine not_congr (line_mem_alignedLine_iff (hwidths.trans ?_))
    rcases List.mem_cons.mp hcells with rfl | hrow
    · rfl
    · exact (hrows cells hrow).symm
  rw [textLines_eq hcolumns]
  constructor
  · -- each row has its line among those of the table
    intro hlines cells hcells
    rw [← hline cells hcells]
    apply hlines
    rcases List.mem_cons.mp hcells with rfl | hrow
    · exact List.mem_cons_self
    · exact List.mem_append_left _
        (List.mem_cons_of_mem _ (List.mem_cons_of_mem _ (List.mem_map_of_mem hrow)))
  · intro hcells line hmem
    rw [List.cons_append, List.cons_append, List.mem_cons, List.mem_cons, List.mem_append] at hmem
    rcases hmem with rfl | rfl | hmap | hmore
    · exact (hline columnNames List.mem_cons_self).mpr (hcells columnNames List.mem_cons_self)
    · exact line_not_mem_ruleLine _
    · obtain ⟨row, hrow, rfl⟩ := List.mem_map.mp hmap
      have hcons := List.mem_cons_of_mem columnNames hrow
      exact (hline row hcons).mpr (hcells row hcons)
    · exact line_not_mem_moreLines line hmore

theorem lines_textLines (hcolumns : columnNames ≠ []) (rowCount : Nat) :
    Text.lines (Text.joined "\n" (textLines columnNames rowCount rows)) =
      (textLines columnNames rowCount rows).flatMap Text.lines :=
  Text.lines_joined (by rw [textLines_eq hcolumns]; simp)

theorem length_lines_textLines_iff (hcolumns : columnNames ≠ []) (rowCount : Nat)
    (hrows : ∀ row ∈ rows, row.length = columnNames.length) :
    (Text.lines (Text.joined "\n" (textLines columnNames rowCount rows))).length =
        2 + rows.length + (moreLines rows.length rowCount).length ↔
      ∀ cells ∈ columnNames :: rows, ¬ BreaksLine cells := by
  rw [lines_textLines hcolumns, ← length_textLines hcolumns, Text.length_flatMap_lines_eq_iff,
    line_not_mem_textLines_iff hcolumns rowCount hrows]

theorem moreLines_suffix_lines (hcolumns : columnNames ≠ []) (rowCount : Nat) :
    moreLines rows.length rowCount <:+
      Text.lines (Text.joined "\n" (textLines columnNames rowCount rows)) := by
  rw [lines_textLines hcolumns, textLines_eq hcolumns, List.flatMap_append,
    Text.flatMap_lines_eq_self line_not_mem_moreLines]
  exact List.suffix_append _ _

/-! ## Lines of markdown -/

theorem length_lines_markdownLines_iff (hcolumns : columnNames ≠ []) (rowCount : Nat)
    (hrows : ∀ row ∈ rows, row ≠ []) :
    (Text.lines (Text.joined "\n" (markdownLines columnNames rowCount rows))).length =
        2 + rows.length + (showingLines rows.length rowCount).length ↔
      ∀ cells ∈ columnNames :: rows, ∀ cell ∈ cells, '\n' ∉ cell.toList := by
  have hne : ∀ cells ∈ columnNames :: rows, cells ≠ [] :=
    List.forall_mem_cons.mpr ⟨hcolumns, hrows⟩
  have hcount : (((columnNames :: rows).map markdownLine).flatMap Text.lines).length =
      ((columnNames :: rows).map markdownLine).length ↔ _ := Text.length_flatMap_lines_eq_iff
  rw [List.length_map, List.length_cons, List.map_cons, List.flatMap_cons, List.length_append,
    ← List.map_cons, List.forall_mem_map] at hcount
  rw [lines_markdownLines hcolumns, List.length_append, List.length_append, List.length_cons]
  constructor
  · intro hlength cells hcells cell hcell hline
    refine hcount.mp (by omega) cells hcells ?_
    exact (line_mem_markdownLine_iff (hne cells hcells)).mpr ⟨cell, hcell, hline⟩
  · intro hcells
    have hlines := hcount.mpr fun cells hmem hline => by
      obtain ⟨cell, hcell, hline⟩ := (line_mem_markdownLine_iff (hne cells hmem)).mp hline
      exact hcells cells hmem cell hcell hline
    omega

/-! ## Both tables -/

variable {result : QueryResult}

theorem length_shownRows (null : String) (limit : Nat) (result : QueryResult) :
    (result.shownRows null limit).length = min limit result.rows.length := by
  rw [shownRows, List.length_map, List.length_take]

/-- **One row, one line, up to line feeds.**  Whatever is shown, the table of plain text has a line
for the names, a rule, a line for each row and a trailer if rows are left out exactly if no name and
no row breaks its line; the markdown table has these lines, its trailer being two of them, exactly
if no name and no cell has a line feed in it.  The trailers tell how many rows are left out, or how
many of them are shown. -/
theorem length_lines_tables_iff (hsuccess : result.success = true) (hcount : result.rowCount ≠ 0)
    (hcolumns : result.columnNames ≠ []) (limit : Nat) :
    let shown := min limit result.rows.length
    let more := shown < result.rowCount
    ((Text.lines (result.textTable limit)).length = 2 + shown + (if more then 1 else 0) ↔
      ∀ cells ∈ result.columnNames :: result.shownRows "NULL" limit, ¬ BreaksLine cells) ∧
    ((Text.lines (result.markdownTable limit)).length = 2 + shown + (if more then 2 else 0) ↔
      ∀ cells ∈ result.columnNames :: result.shownRows "-" limit,
        ∀ cell ∈ cells, '\n' ∉ cell.toList) ∧
    (more →
      (∃ left, left + shown = result.rowCount ∧
        ["... and " ++ toString left ++ " more rows"] <:+ Text.lines (result.textTable limit)) ∧
      ["", "*Showing " ++ toString shown ++ " of " ++ toString result.rowCount ++ " results*"] <:+
        Text.lines (result.markdownTable limit)) := by
  intro shown more
  have hnone := sentence?_eq_none hsuccess hcount
  have hlength : ∀ row ∈ result.shownRows "NULL" limit, row.length = result.columnNames.length :=
    fun row => length_of_mem_shownRows
  have hne : ∀ row ∈ result.shownRows "-" limit, row ≠ [] :=
    fun row => ne_nil_of_mem_shownRows hcolumns
  have htext := length_lines_textLines_iff hcolumns result.rowCount hlength
  have hmarkdown := length_lines_markdownLines_iff hcolumns result.rowCount hne
  have hmore : moreLines (result.shownRows "NULL" limit).length result.rowCount <:+ _ :=
    moreLines_suffix_lines hcolumns result.rowCount
  rw [textTable_eq limit hnone, markdownTable_eq limit hnone]
  rw [length_shownRows] at htext hmarkdown hmore
  -- both counts, and the trailers if rows are left out
  refine ⟨?_, ?_, fun hshown => ⟨⟨result.rowCount - shown, ?_, ?_⟩, ?_⟩⟩
  · rw [← htext, moreLines]
    split <;> rfl
  · rw [← hmarkdown, showingLines]
    split <;> rfl
  · exact Nat.sub_add_cancel hshown.le
  · rwa [moreLines, if_pos hshown] at hmore
  · rw [lines_markdownLines hcolumns, length_shownRows, showingLines, if_pos hshown]
    exact List.suffix_append _ _

/-- Two notes: a line feed at the end of the first, one inside of the second. -/
def notes : QueryResult :=
  .ofRows ["id", "note"]
    [[("id", .ofNat 1), ("note", .string "done\n")],
      [("id", .ofNat 2), ("note", .string "first\nsecond")]]
    false (.ofNat 0)

/-- The first note keeps its line in the table of plain text and has two in the markdown table. -/
theorem length_lines_notes :
    notes.success = true ∧ notes.rowCount ≠ 0 ∧ notes.columnNames ≠ [] ∧
      (Text.lines (notes.textTable 1)).length = 4 ∧
      (Text.lines (notes.markdownTable 1)).length ≠ 5 := by
  have hcount : notes.rowCount ≠ 0 := by decide
  have hcolumns : notes.columnNames ≠ [] := by decide
  have hsuccess : notes.success = true := rfl
  obtain ⟨htext, hmarkdown, -⟩ := length_lines_tables_iff hsuccess hcount hcolumns 1
  refine ⟨hsuccess, hcount, hcolumns, htext.mpr (by decide), mt hmarkdown.mp ?_⟩
  decide

/-- Two rows in more than two lines, in either table. -/
theorem broken_notes :
    notes.success = true ∧ notes.rowCount = 2 ∧ notes.columnNames = ["id", "note"] ∧
      (Text.lines (notes.textTable 50)).length ≠ 2 + 2 ∧
      (Text.lines (notes.markdownTable 30)).length ≠ 2 + 2 := by
  decide

end PlainQuery.QueryResult
