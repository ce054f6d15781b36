import SchemaBatch.Text.Width

/-!
# `Table` — tables drawn with characters

A column is as wide as its widest line, with a blank on each side. Lines of cells are set to the
left, and a cell with line breaks takes several of them.

Contents: `Table` and `Table.widths`; `border` and `rowLines`, the two kinds of lines;
`Table.render`.
-/

namespace SchemaBatch

/-- A table: the cells of its header and of its rows. -/
structure Table where
  header : List Text
  rows : List (List Text)
  deriving DecidableEq, Repr

namespace Table

/-! ## Widths -/

/-- The lines of a cell. -/
def lines (cell : Text) : List Text := Text.cut (· == '\n') cell

/-- The largest of some numbers, zero when there is none. -/
def largest (ns : List Nat) : Nat := ns.foldl max 0

/-- The columns that a cell takes. -/
def cellWidth (cell : Text) : Nat := largest ((lines cell).map Text.columns)

/-- The widths of the columns of a table, without the blanks beside them. -/
def widths (t : Table) : List Nat :=
  t.rows.foldl (fun widths row => List.zipWith max widths (row.map cellWidth))
    (t.header.map cellWidth)

/-! ## Lines -/

/-- A line between rows. -/
def border (left fill crossing right : Char) (widths : List Nat) : Text :=
  left :: Text.joined [crossing] (widths.map fun width => List.replicate (width + 2) fill) ++
    [right]

/-- A line of a cell, filled up to a width. -/
def padTo (width : Nat) (line : Text) : Text :=
  line ++ List.replicate (width - Text.columns line) ' '

/-- A line across the cells of a row. -/
def cellLine (widths : List Nat) (pieces : List Text) : Text :=
  '|' :: (List.zipWith (fun width piece => ' ' :: padTo width piece ++ [' ', '|'])
    widths pieces).flatten

/-- The lines of a row. A cell with fewer lines than another is filled up with empty ones. -/
def rowLines (widths : List Nat) (row : List Text) : List Text :=
  let cells := row.map lines
  (List.range (largest (cells.map List.length))).map fun i =>
    cellLine widths (cells.map fun cell => (cell[i]?).getD [])

/-! ## Tables -/

/-- The line around a table. -/
def outerBorder (widths : List Nat) : Text := border '+' '-' '+' '+' widths

/-- The line below the header. -/
def headerBorder (widths : List Nat) : Text := border '+' '=' '=' '+' widths

/-- The line between two rows. -/
def rowBorder (widths : List Nat) : Text := border '|' '-' '+' '|' widths

/-- The table, without a line break at the end. -/
def render (t : Table) : Text :=
  let widths := t.widths
  let rows := (t.rows.map (rowLines widths)).intersperse [rowBorder widths]
  Text.joined ['\n'] (outerBorder widths :: rowLines widths t.header ++
    headerBorder widths :: rows.flatten ++ [outerBorder widths])

end Table
end SchemaBatch
