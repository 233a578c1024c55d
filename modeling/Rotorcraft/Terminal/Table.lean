import Rotorcraft.Terminal.Width
import Rotorcraft.Text.Blank

/-! # Tables in plain characters

Every column is as wide as its widest line and has a blank on either side. A cell may have several
lines; the shorter cells of its row are filled with blanks.
-/

namespace Rotorcraft.Terminal

def cellLines (cell : String) : List String :=
  (Text.splitAt '\n' cell.toList).map String.ofList

def greatest (numbers : List Nat) : Nat :=
  numbers.foldl max 0

/-- The columns that a cell takes. -/
def cellWidth (cell : String) : Nat :=
  greatest ((cellLines cell).map textWidth)

/-- A table with a header; all rows have as many cells as the header. -/
structure Table where
  header : List String
  rows : List (List String)
deriving DecidableEq, Repr

namespace Table

/-- The widest cell of each column. -/
def widths (table : Table) : List Nat :=
  table.rows.foldl (fun widths row => List.zipWith max widths (row.map cellWidth))
    (table.header.map cellWidth)

def repeated (count : Nat) (c : Char) : String :=
  String.ofList (List.replicate count c)

/-- A line of a cell between blanks, filled up to a width. -/
def paddedLine (width : Nat) (line : String) : String :=
  " " ++ line ++ repeated (width - textWidth line + 1) ' '

/-- A horizontal rule with a junction between the columns. -/
def rule (left line junction right : String) (widths : List Nat) : String :=
  left ++ junction.intercalate (widths.map fun width => String.join (List.replicate (width + 2) line))
    ++ right

def rowLines (widths : List Nat) (row : List String) : List String :=
  let cells := row.map cellLines
  let height := greatest (cells.map List.length)
  (List.range height).map fun index =>
    let lines := cells.map fun lines => lines.getD index ""
    "|" ++ "|".intercalate (List.zipWith paddedLine widths lines) ++ "|"

/-- The lines of all rows, with a rule between two rows. -/
def bodyLines (widths : List Nat) : List (List String) → List String
  | [] => []
  | [row] => rowLines widths row
  | row :: rest => rowLines widths row ++ rule "|" "-" "+" "|" widths :: bodyLines widths rest

def lines (table : Table) : List String :=
  let widths := table.widths
  rule "+" "-" "+" "+" widths :: rowLines widths table.header ++
    rule "+" "=" "=" "+" widths :: bodyLines widths table.rows ++ [rule "+" "-" "+" "+" widths]

end Table
end Rotorcraft.Terminal
