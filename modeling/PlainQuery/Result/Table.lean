import PlainQuery.Result.Basic
import PlainQuery.Result.Display
import PlainQuery.Text.Blank

/-!
# Showing results

A result is shown as an aligned table of plain text or as a markdown table.  Either shows a limited
number of rows and says how many there are besides.  A failed or empty result is shown as a
sentence.
-/

namespace PlainQuery

/-- How many rows the two tables show. -/
structure DisplayLimits where
  textRows : Nat := 50
  markdownRows : Nat := 30
deriving DecidableEq, Repr

namespace QueryResult

/-- The sentence for a result that has no rows to show. -/
def sentence? (result : QueryResult) : Option String :=
  if !result.success then
    some ("Error in query: " ++ result.errorMessage.getD "unknown error")
  else if result.rowCount == 0 then some "No data found for the specified criteria."
  else none

/-- The shown values of a row in the order of the columns; a column without value is blank. -/
def shownCells (null : String) (columnNames : List String) (row : Row) : List String :=
  columnNames.map fun name =>
    match Fields.get? row name with
    | some value => Display.showValue null value
    | none => ""

/-! ## Plain text -/

/-- The text with blanks behind it up to the width. -/
def padded (width : Nat) (cell : String) : List Char :=
  cell.toList ++ List.replicate (width - cell.length) ' '

/-- A line of cells, each as wide as its column; blanks at the end are left out. -/
def alignedLine (widths : List Nat) (cells : List String) : String :=
  String.ofList (Text.stripEnd
    (" | ".toList.intercalate ((widths.zip cells).map fun (width, cell) => padded width cell)))

/-- The widths of the columns: those of the widest cell, the name among them. -/
def columnWidths (columnNames : List String) (cells : List (List String)) : List Nat :=
  cells.foldl (fun widths row => (widths.zip row).map fun (width, cell) => max width cell.length)
    (columnNames.map String.length)

/-- The line between the names and the rows. -/
def ruleLine (widths : List Nat) : String :=
  String.ofList (List.replicate (widths.foldl (· + ·) 0 + 3 * (widths.length - 1)) '-')

/-- The table of plain text. -/
def textTable (limit : Nat) (result : QueryResult) : String :=
  match result.sentence? with
  | some sentence => sentence
  | none =>
    let shown := result.rows.take limit
    let cells := shown.map (shownCells "NULL" result.columnNames)
    let widths := columnWidths result.columnNames cells
    let heading :=
      if result.columnNames.isEmpty then []
      else [alignedLine widths result.columnNames, ruleLine widths]
    let trailer :=
      if shown.length < result.rowCount then
        ["... and " ++ toString (result.rowCount - shown.length) ++ " more rows"]
      else []
    Text.joined "\n" (heading ++ cells.map (alignedLine widths) ++ trailer)

/-! ## Markdown -/

/-- The text with a backslash before each bar. -/
def escapeBars (text : String) : String :=
  String.ofList (text.toList.flatMap fun c => if c == '|' then ['\\', '|'] else [c])

/-- A line of cells between bars. -/
def markdownLine (cells : List String) : String :=
  "| " ++ Text.joined " | " (cells.map escapeBars) ++ " |"

/-- The line between the names and the rows. -/
def markdownRule (columns : Nat) : String :=
  "|" ++ Text.joined "|" (List.replicate columns "---") ++ "|"

/-- The markdown table. -/
def markdownTable (limit : Nat) (result : QueryResult) : String :=
  match result.sentence? with
  | some sentence => sentence
  | none =>
    let shown := result.rows.take limit
    let trailer :=
      if shown.length < result.rowCount then
        ["\n*Showing " ++ toString shown.length ++ " of " ++ toString result.rowCount ++
          " results*"]
      else []
    Text.joined "\n"
      ([markdownLine result.columnNames, markdownRule result.columnNames.length] ++
        shown.map (fun row => markdownLine (shownCells "-" result.columnNames row)) ++ trailer)

end QueryResult

end PlainQuery
