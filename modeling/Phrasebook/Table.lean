import Phrasebook.Text.Split
import Phrasebook.Text.Width

/-! Tables in a box, with a line under the header and none between the rows. A cell is as high as it
has lines. -/
namespace Phrasebook

/-- A header and rows of as many cells. -/
structure Table where
  header : List String
  rows : List (List String)
deriving DecidableEq, Repr

namespace Table

/-- The lines of a cell. -/
def cellLines (s : String) : List String :=
  (Text.split '\n' s.toList).map String.ofList

/-- The width of a cell: that of its widest line. -/
def cellWidth (s : String) : Nat :=
  ((cellLines s).map Text.width).foldl max 0

/-- The width of each column: that of its widest cell. -/
def columnWidths (t : Table) : List Nat :=
  t.rows.foldl (fun widths row => widths.zipWith max (row.map cellWidth)) (t.header.map cellWidth)

/-- A text with blanks at its end up to the width, and one on either side. -/
def pad (width : Nat) (s : String) : String :=
  " " ++ s ++ "".pushn ' ' (width - Text.width s) ++ " "

/-- Texts side by side between the sides of the box. -/
def line (widths : List Nat) (texts : List String) : String :=
  "│" ++ " ".intercalate (widths.zipWith pad texts) ++ "│"

/-- The lines of a row: as many as its highest cell has, the other cells being blank below. -/
def row (widths : List Nat) (cells : List String) : List String :=
  let columns := cells.map cellLines
  let height := (columns.map List.length).foldl max 0
  (List.range height).map fun i => line widths (columns.map (·.getD i ""))

/-- A line across the box. -/
def rule (widths : List Nat) (left across right : Char) : String :=
  let columns := widths.map fun width => "".pushn across (width + 2)
  left.toString ++ across.toString.intercalate columns ++ right.toString

/-- The table, line by line. -/
def lines (t : Table) : List String :=
  let widths := t.columnWidths
  rule widths '┌' '─' '┐' :: row widths t.header ++ rule widths '╞' '═' '╡' ::
    t.rows.flatMap (row widths) ++ [rule widths '└' '─' '┘']

def render (t : Table) : String :=
  "\n".intercalate t.lines

end Table
end Phrasebook
