import PlainQuery.Proofs.Result.Columns
import PlainQuery.Proofs.Text.Lines

/-!
# Rows of the markdown table are read back

A line of the markdown table has its cells between bars.  The bars of a cell get a backslash in
front of them, its backslashes do not, so a cell may well end with a backslash or have one in front
of a bar already.  Nevertheless the line is cut at the right places, because the bars between cells
have a blank in front of them, and every bar inside of a cell has the backslash that was put there.

`barPieces` cuts a line at the bars that no backslash stands directly in front of; that is all the
reader knows.  The proof follows the line from piece to piece:

* a text is `Uncut` if the reader takes it as one piece, up to the bar behind it, whatever stood in
  front of it.  An escaped cell between blanks is such a text (`uncut_cellPiece`): along the cell,
  each bar falls to its backslash (`barPieces_escaped`), and the blank at the end makes sure that
  the next bar is a cut;
* the line of a row is its cells with their blanks between single bars (`toList_markdownLine`),
  since the blanks that are written around the bars belong to the cells (`blanks_to_cells`);
* so it is cut into its cells (`barPieces_barred`), and taking one backslash away in front of each
  bar gives the text of each cell back (`unescapeBars_escaped`).

A line therefore `ReadsAs` its cells, and as no others (`ReadsAs.unique`).  Only line feeds would
spread it over several lines of the table, so `markdownTable_readable` asks that there are none.
-/

namespace PlainQuery.QueryResult

variable {columnNames cells others : List String} {rows : List (List String)} {c : Char}
  {text rest : List Char} {parts : List (List Char)}

/-! ## Reading a line -/

/-- The pieces of a line between the bars that no backslash stands directly in front of. -/
def barPieces (behindBackslash : Bool) : List Char → List (List Char)
  | [] => [[]]
  | c :: rest =>
    if c == '|' && !behindBackslash then [] :: barPieces false rest
    else (barPieces (c == '\\') rest).modifyHead (c :: ·)

/-- The text with a bar alone wherever it has a backslash and a bar. -/
def unescapeBars : List Char → List Char
  | '\\' :: '|' :: rest => '|' :: unescapeBars rest
  | c :: rest => c :: unescapeBars rest
  | [] => []

/-- The piece has a blank at each end and a cell between them. -/
def ShowsCell (piece : List Char) (cell : String) : Prop :=
  ∃ inner, piece = ' ' :: inner ++ [' '] ∧ unescapeBars inner = cell.toList

/-- The line begins and ends with a bar, and the pieces between its bars show the cells. -/
def ReadsAs (line : String) (cells : List String) : Prop :=
  ∃ inner, barPieces false line.toList = [] :: inner ++ [[]] ∧ List.Forall₂ ShowsCell inner cells

theorem ShowsCell.unique {piece : List Char} {cell other : String} (h : ShowsCell piece cell)
    (hother : ShowsCell piece other) : cell = other := by
  obtain ⟨inner, hpiece, hcell⟩ := h
  obtain ⟨inner', hpiece', hcell'⟩ := hother
  rw [hpiece, List.cons_append, List.cons_append, List.cons.injEq, List.append_cancel_right_eq]
    at hpiece'
  rw [← String.toList_inj, ← hcell, ← hcell', hpiece'.2]

theorem ReadsAs.unique {line : String} (h : ReadsAs line cells) (hother : ReadsAs line others) :
    cells = others := by
  obtain ⟨inner, hpieces, hcells⟩ := h
  obtain ⟨inner', hpieces', hothers⟩ := hother
  rw [hpieces, List.cons_append, List.cons_append, List.cons.injEq, List.append_cancel_right_eq]
    at hpieces'
  obtain rfl := hpieces'.2
  clear hpieces hpieces'
  induction hcells generalizing others with
  | nil =>
      cases hothers
      rfl
  | cons hcell _ ih =>
      cases hothers with
      | cons hother hothers => rw [hcell.unique hother, ih hothers]

/-! ## Escaped cells -/

/-- The text with a backslash before each bar. -/
def escaped (text : List Char) : List Char :=
  text.flatMap fun c => if c == '|' then ['\\', '|'] else [c]

theorem toList_escapeBars (cell : String) : (escapeBars cell).toList = escaped cell.toList :=
  String.toList_ofList

theorem escaped_bar (rest : List Char) : escaped ('|' :: rest) = '\\' :: '|' :: escaped rest := rfl

theorem escaped_cons (hc : c ≠ '|') (rest : List Char) :
    escaped (c :: rest) = c :: escaped rest := by
  rw [escaped, List.flatMap_cons, if_neg (by simpa using hc)]
  rfl

/-- An escaped text does not begin with a bar. -/
theorem escaped_ne_bar (text : List Char) : escaped text ≠ '|' :: rest := by
  cases text with
  | nil => simp [escaped]
  | cons c text =>
      by_cases hc : c = '|'
      · subst hc
        rw [escaped_bar]
        simp
      · rw [escaped_cons hc]
        simp [hc]

theorem unescapeBars_cons (hrest : ∀ behind, rest ≠ '|' :: behind) :
    unescapeBars (c :: rest) = c :: unescapeBars rest := by
  rw [unescapeBars]
  rintro behind - rfl
  exact hrest behind rfl

theorem unescapeBars_escaped (text : List Char) : unescapeBars (escaped text) = text := by
  induction text with
  | nil => rfl
  | cons c text ih =>
      by_cases hc : c = '|'
      · subst hc
        rw [escaped_bar, unescapeBars, ih]
      · rw [escaped_cons hc, unescapeBars_cons fun behind => escaped_ne_bar text, ih]

/-! ## Lines between bars -/

/-- The text is one piece of a line: it is cut at the bar behind it and nowhere else. -/
def Uncut (text : List Char) : Prop :=
  ∀ behindBackslash rest,
    barPieces behindBackslash (text ++ '|' :: rest) = text :: barPieces false rest

theorem barPieces_bar (rest : List Char) :
    barPieces false ('|' :: rest) = [] :: barPieces false rest := rfl

theorem barPieces_cons (hc : c ≠ '|') (behindBackslash : Bool) (rest : List Char) :
    barPieces behindBackslash (c :: rest) = (barPieces (c == '\\') rest).modifyHead (c :: ·) := by
  rw [barPieces, if_neg (by simp [hc])]

/-- A backslash keeps the bar behind it from being a cut. -/
theorem barPieces_escapedBar (behindBackslash : Bool) (rest : List Char) :
    barPieces behindBackslash ('\\' :: '|' :: rest) =
      (barPieces false rest).modifyHead fun piece => '\\' :: '|' :: piece := by
  rw [barPieces_cons (by decide)]
  simp [barPieces, List.modifyHead_modifyHead, Function.comp_def]

theorem barPieces_escaped (text : List Char) (behindBackslash : Bool) (rest : List Char) :
    barPieces behindBackslash (escaped text ++ ' ' :: rest) =
      (barPieces false rest).modifyHead fun piece => escaped text ++ ' ' :: piece := by
  induction text generalizing behindBackslash with
  | nil => exact barPieces_cons (by decide) behindBackslash rest
  | cons c text ih =>
      by_cases hc : c = '|'
      · subst hc
        rw [escaped_bar, List.cons_append, List.cons_append, barPieces_escapedBar, ih,
          List.modifyHead_modifyHead]
        rfl
      · rw [escaped_cons hc, List.cons_append, barPieces_cons hc, ih, List.modifyHead_modifyHead]
        rfl

/-- What a cell is in its line. -/
def cellPiece (cell : String) : List Char := ' ' :: escaped cell.toList ++ [' ']

theorem uncut_cellPiece (cell : String) : Uncut (cellPiece cell) := by
  intro behindBackslash rest
  have hpiece : cellPiece cell ++ '|' :: rest =
      ' ' :: (escaped cell.toList ++ ' ' :: '|' :: rest) := by
    simp [cellPiece]
  rw [hpiece, barPieces_cons (by decide), barPieces_escaped, barPieces_bar]
  simp [cellPiece]

theorem showsCell_cellPiece (cell : String) : ShowsCell (cellPiece cell) cell :=
  ⟨escaped cell.toList, rfl, unescapeBars_escaped cell.toList⟩

theorem uncut_dashes : Uncut "---".toList := fun _ _ => rfl

/-- The parts with a bar in front of them and one behind each of them. -/
def barred (parts : List (List Char)) : List Char := '|' :: parts.flatMap fun part => part ++ ['|']

theorem barPieces_barred (h : ∀ part ∈ parts, Uncut part) :
    barPieces false (barred parts) = [] :: parts ++ [[]] := by
  rw [barred, barPieces_bar, List.cons_append, List.cons_inj_right]
  induction parts with
  | nil => rfl
  | cons part parts ih =>
      rw [List.forall_mem_cons] at h
      rw [List.flatMap_cons, List.append_assoc, List.singleton_append, h.1, ih h.2,
        List.cons_append]

theorem barred_eq (hne : parts ≠ []) :
    '|' :: ['|'].intercalate parts ++ ['|'] = barred parts := by
  rw [barred, List.cons_append, List.cons_inj_right]
  induction parts with
  | nil => exact absurd rfl hne
  | cons part parts ih =>
      cases parts with
      | nil => simp
      | cons other parts =>
          rw [List.intercalate_cons_cons, List.append_assoc, ih (List.cons_ne_nil other parts)]
          rfl

/-- The blanks of the line belong to its cells. -/
theorem blanks_to_cells (hne : cells ≠ []) :
    ' ' :: (" | ".toList.intercalate (cells.map fun cell => escaped cell.toList) ++ [' ']) =
      ['|'].intercalate (cells.map cellPiece) := by
  induction cells with
  | nil => exact absurd rfl hne
  | cons cell cells ih =>
      cases cells with
      | nil => simp [cellPiece]
      | cons other cells =>
          have hothers := ih (List.cons_ne_nil other cells)
          simp only [List.map_cons, List.intercalate_cons_cons] at hothers ⊢
          rw [← hothers]
          simp [cellPiece]

theorem toList_markdownLine (hne : cells ≠ []) :
    (markdownLine cells).toList = barred (cells.map cellPiece) := by
  have htexts : (cells.map escapeBars).map String.toList =
      cells.map fun cell => escaped cell.toList := by
    rw [List.map_map]
    exact List.map_congr_left fun cell _ => toList_escapeBars cell
  rw [← barred_eq (by simpa using hne), ← blanks_to_cells hne, markdownLine, Text.joined,
    String.toList_append, String.toList_append, String.toList_intercalate, htexts]
  simp

theorem toList_markdownRule {columns : Nat} (hne : columns ≠ 0) :
    (markdownRule columns).toList = barred (List.replicate columns "---".toList) := by
  rw [← barred_eq (by simpa using hne), markdownRule, Text.joined, String.toList_append,
    String.toList_append, String.toList_intercalate, List.map_replicate]
  simp

theorem readsAs_markdownLine (hne : cells ≠ []) : ReadsAs (markdownLine cells) cells := by
  refine ⟨cells.map cellPiece, ?_, ?_⟩
  · rw [toList_markdownLine hne]
    exact barPieces_barred (List.forall_mem_map.mpr fun cell _ => uncut_cellPiece cell)
  · rw [List.forall₂_map_left_iff, List.forall₂_same]
    exact fun cell _ => showsCell_cellPiece cell

/-- Rows with the same line are the same. -/
theorem markdownLine_injective (hne : cells ≠ []) (hothers : others ≠ [])
    (h : markdownLine cells = markdownLine others) : cells = others :=
  (readsAs_markdownLine hne).unique (h ▸ readsAs_markdownLine hothers)

/-! ## The table -/

theorem line_mem_escaped_iff : '\n' ∈ escaped text ↔ '\n' ∈ text := by
  induction text with
  | nil => rfl
  | cons c text ih =>
      by_cases hc : c = '|'
      · subst hc
        simp [escaped_bar, ih]
      · rw [escaped_cons hc, List.mem_cons, List.mem_cons, ih]

theorem line_mem_markdownLine_iff (hne : cells ≠ []) :
    '\n' ∈ (markdownLine cells).toList ↔ ∃ cell ∈ cells, '\n' ∈ cell.toList := by
  rw [toList_markdownLine hne, barred]
  simp [cellPiece, line_mem_escaped_iff]

theorem line_not_mem_markdownRule {columns : Nat} (hne : columns ≠ 0) :
    '\n' ∉ (markdownRule columns).toList := by
  rw [toList_markdownRule hne, barred]
  simp

/-- What stands behind a table that shows so many rows of so many: an empty line and the two
numbers, if they differ. -/
def showingLines (shown rowCount : Nat) : List String :=
  if shown < rowCount then
    ["", "*Showing " ++ toString shown ++ " of " ++ toString rowCount ++ " results*"]
  else []

/-- The line break in front of the trailer makes an empty line. -/
theorem flatMap_lines_trailer (shown rowCount : Nat) :
    (if shown < rowCount then
      ["\n*Showing " ++ toString shown ++ " of " ++ toString rowCount ++ " results*"]
    else []).flatMap Text.lines = showingLines shown rowCount := by
  rw [showingLines]
  split
  · have hsplit : "\n*Showing " ++ toString shown ++ " of " ++ toString rowCount ++ " results*" =
        "" ++ "\n" ++
          ("*Showing " ++ toString shown ++ " of " ++ toString rowCount ++ " results*") := by
      apply String.toList_inj.mp
      simp
    have hline : '\n' ∉
        ("*Showing " ++ toString shown ++ " of " ++ toString rowCount ++ " results*").toList := by
      have hshown := Text.line_not_mem_toString shown
      have hrowCount := Text.line_not_mem_toString rowCount
      simp only [String.toList_append, List.mem_append, not_or]
      exact ⟨⟨⟨⟨by decide, hshown⟩, by decide⟩, hrowCount⟩, by decide⟩
    rw [List.flatMap_singleton, hsplit, Text.lines_append, Text.lines_eq_singleton hline]
    rfl
  · rfl

theorem lines_markdownLines (hcolumns : columnNames ≠ []) (rowCount : Nat) :
    Text.lines (Text.joined "\n" (markdownLines columnNames rowCount rows)) =
      Text.lines (markdownLine columnNames) ++
        markdownRule columnNames.length :: (rows.map markdownLine).flatMap Text.lines ++
        showingLines rows.length rowCount := by
  have hrule := Text.lines_eq_singleton
    (line_not_mem_markdownRule (mt List.length_eq_zero_iff.mp hcolumns))
  have hne : markdownLines columnNames rowCount rows ≠ [] := by simp [markdownLines]
  rw [Text.lines_joined hne, markdownLines, List.flatMap_append, List.flatMap_append,
    flatMap_lines_trailer, List.flatMap_cons, List.flatMap_singleton, hrule]
  simp

/-- The lines of the table are one for the names, a rule with a part for each column, one for each
row, and what stands behind them; the lines for names and rows read as their cells. -/
def ReadableTable (columnNames : List String) (rowCount : Nat) (rows : List (List String))
    (table : String) : Prop :=
  ∃ header rule lines,
    Text.lines table = header :: rule :: lines ++ showingLines rows.length rowCount ∧
    ReadsAs header columnNames ∧
    barPieces false rule.toList =
      [] :: List.replicate columnNames.length "---".toList ++ [[]] ∧
    List.Forall₂ ReadsAs lines rows

theorem readableTable_markdownLines (hcolumns : columnNames ≠ []) (rowCount : Nat)
    (hnames : ∀ name ∈ columnNames, '\n' ∉ name.toList) (hrows : ∀ row ∈ rows, row ≠ [])
    (hcells : ∀ row ∈ rows, ∀ cell ∈ row, '\n' ∉ cell.toList) :
    ReadableTable columnNames rowCount rows
      (Text.joined "\n" (markdownLines columnNames rowCount rows)) := by
  have hlines : ∀ line ∈ rows.map markdownLine, '\n' ∉ line.toList := by
    rw [List.forall_mem_map]
    intro row hrow hmem
    obtain ⟨cell, hcell, hline⟩ := (line_mem_markdownLine_iff (hrows row hrow)).mp hmem
    exact hcells row hrow cell hcell hline
  -- without line feeds each row has a line of its own
  have hheader : '\n' ∉ (markdownLine columnNames).toList := by
    rw [line_mem_markdownLine_iff hcolumns]
    rintro ⟨name, hname, hline⟩
    exact hnames name hname hline
  refine ⟨markdownLine columnNames, markdownRule columnNames.length, rows.map markdownLine,
    ?_, readsAs_markdownLine hcolumns, ?_, ?_⟩
  · rw [lines_markdownLines hcolumns, Text.lines_eq_singleton hheader,
      Text.flatMap_lines_eq_self hlines]
    rfl
  · rw [toList_markdownRule (mt List.length_eq_zero_iff.mp hcolumns)]
    exact barPieces_barred fun part hpart => List.eq_of_mem_replicate hpart ▸ uncut_dashes
  · rw [List.forall₂_map_left_iff, List.forall₂_same]
    exact fun row hrow => readsAs_markdownLine (hrows row hrow)

variable {result : QueryResult}

theorem ne_nil_of_mem_shownRows {null : String} {limit : Nat} {row : List String}
    (hcolumns : result.columnNames ≠ []) (hrow : row ∈ result.shownRows null limit) : row ≠ [] := by
  obtain ⟨values, -, rfl⟩ := List.mem_map.mp hrow
  exact mt List.map_eq_nil_iff.mp hcolumns

/-- **Rows of the markdown table are read back.**  If no column name and no cell that is shown has a
line feed in it, each line of the table reads as the names or the cells it was made from, whatever
bars and backslashes they have. -/
theorem markdownTable_readable (hsuccess : result.success = true) (hcount : result.rowCount ≠ 0)
    (hcolumns : result.columnNames ≠ []) (limit : Nat)
    (hnames : ∀ name ∈ result.columnNames, '\n' ∉ name.toList)
    (hcells : ∀ row ∈ result.shownRows "-" limit, ∀ cell ∈ row, '\n' ∉ cell.toList) :
    ReadableTable result.columnNames result.rowCount (result.shownRows "-" limit)
      (result.markdownTable limit) := by
  rw [markdownTable_eq limit (sentence?_eq_none hsuccess hcount)]
  exact readableTable_markdownLines hcolumns _ hnames
    (fun _ => ne_nil_of_mem_shownRows hcolumns) hcells

/-- Paths and patterns: a backslash at the end of a cell, one in front of a bar, and bars alone. -/
def patterns : QueryResult :=
  .ofRows ["path", "a|b"]
    [[("path", .string "C:\\"), ("a|b", .string "x\\|y")], [("a|b", .string "||")],
      [("path", .null), ("a|b", .bool true)]]
    false (.ofNat 0)

theorem readable_patterns :
    patterns.success = true ∧ patterns.rowCount ≠ 0 ∧ patterns.columnNames ≠ [] ∧
      (∀ name ∈ patterns.columnNames, '\n' ∉ name.toList) ∧
      (∀ row ∈ patterns.shownRows "-" 2, ∀ cell ∈ row, '\n' ∉ cell.toList) ∧
      patterns.markdownTable 2 =
        "| path | a\\|b |\n|---|---|\n| C:\\ | x\\\\|y |\n|  | \\|\\| |\n\n" ++
          "*Showing 2 of 3 results*" ∧
      ReadableTable ["path", "a|b"] 3 [["C:\\", "x\\|y"], ["", "||"]]
        (patterns.markdownTable 2) := by
  have hcount : patterns.rowCount ≠ 0 := by decide
  have hcolumns : patterns.columnNames ≠ [] := by decide
  have hnames : ∀ name ∈ patterns.columnNames, '\n' ∉ name.toList := by decide
  have hrows : patterns.shownRows "-" 2 = [["C:\\", "x\\|y"], ["", "||"]] := by decide
  have hcells : ∀ row ∈ patterns.shownRows "-" 2, ∀ cell ∈ row, '\n' ∉ cell.toList := by
    rw [hrows]
    decide
  refine ⟨rfl, hcount, hcolumns, hnames, hcells, by decide, ?_⟩
  have hreadable := markdownTable_readable rfl hcount hcolumns 2 hnames hcells
  rwa [hrows] at hreadable

end PlainQuery.QueryResult
