/-!
# Tables drawn with box characters

Every column is as wide as its widest cell and has a blank on either side.
Cells are aligned to the left.  No line is wrapped, since a table that does not
go to a terminal has no width to fit into.
-/

namespace Announce.Text

/-- A table: a row of headings and rows of cells. -/
structure Grid where
  header : List String
  rows : List (List String)
deriving DecidableEq, Repr

/-- The strokes of a line between rows: its ends, the line itself and the
crossings with the lines between columns. -/
structure Rule where
  left : String
  fill : Char
  crossing : String
  right : String

namespace Rule

/-- The upper border. -/
def top : Rule := ⟨"┌", '─', "┬", "┐"⟩

/-- The line under the headings. -/
def underHeader : Rule := ⟨"╞", '═', "╪", "╡"⟩

/-- The line between two rows. -/
def betweenRows : Rule := ⟨"├", '╌', "┼", "┤"⟩

/-- The lower border. -/
def bottom : Rule := ⟨"└", '─', "┴", "┘"⟩

/-- Draw a line across columns of the given widths. -/
def draw (rule : Rule) (widths : List Nat) : String :=
  let columns := widths.map fun width =>
    String.ofList (List.replicate (width + 2) rule.fill)
  rule.left ++ rule.crossing.intercalate columns ++ rule.right

end Rule

namespace Grid

/-- The widths of the columns. -/
def widths (grid : Grid) : List Nat :=
  grid.rows.foldl (fun widths row => List.zipWith max widths (row.map String.length))
    (grid.header.map String.length)

/-- Draw one row. -/
def drawRow (widths : List Nat) (row : List String) : String :=
  let cells := List.zipWith
    (fun width cell =>
      " " ++ cell ++ String.ofList (List.replicate (width - cell.length) ' ') ++ " ")
    widths row
  "│" ++ "┆".intercalate cells ++ "│"

/-- The lines of a table. -/
def lines (grid : Grid) : List String :=
  let widths := grid.widths
  let rows := grid.rows.map (drawRow widths)
  [Rule.top.draw widths, drawRow widths grid.header, Rule.underHeader.draw widths] ++
    rows.intersperse (Rule.betweenRows.draw widths) ++
    [Rule.bottom.draw widths]

/-- A table as a text without a newline at its end. -/
def render (grid : Grid) : String :=
  "\n".intercalate grid.lines

end Grid

end Announce.Text
