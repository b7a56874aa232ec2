import InstallMatrix.Text.Width

/-!
# `InstallMatrix.Terminal.Table`: tables in frames

A table is drawn in a frame with rounded corners and a line below its header.
Every cell has one blank on either side, and a cell may have more than one line.

Definitions: `tableText`.
-/

set_option autoImplicit false

namespace InstallMatrix.Terminal

/-- The columns a cell takes: those of its longest line. -/
def cellWidth (cell : String) : Nat :=
  (Text.split '\n' cell).foldl (fun n l => max n (Text.width l)) 0

/-- The greater of two widths, column by column. -/
def widest : List Nat → List Nat → List Nat
  | a :: as, b :: bs => max a b :: widest as bs
  | [], bs => bs
  | as, [] => as

/-- The width of every column. -/
def columnWidths (rows : List (List String)) : List Nat :=
  rows.foldl (fun ws row => widest ws (row.map cellWidth)) []

/-- A line of the frame. -/
def frameLine (left middle right : String) (widths : List Nat) : String :=
  left ++ Text.joined middle (widths.map fun w => Text.repeated (w + 2) "─") ++ right

/-- Line number `i` of a row. Cells with fewer lines are blank there. -/
def rowLine (widths : List Nat) (row : List String) (i : Nat) : String :=
  let cells := (widths.zip row).map fun (w, cell) =>
    " " ++ Text.padEnd w ((Text.split '\n' cell)[i]?.getD "") ++ " "
  "│" ++ Text.joined "│" cells ++ "│"

/-- The lines of a row. -/
def rowLines (widths : List Nat) (row : List String) : List String :=
  let height := row.foldl (fun n cell => max n (Text.split '\n' cell).length) 1
  (List.range height).map (rowLine widths row)

/-- A table with a header and rows of as many cells. -/
def tableText (header : List String) (rows : List (List String)) : String :=
  let widths := columnWidths (header :: rows)
  Text.joined "\n"
    ([frameLine "╭" "┬" "╮" widths]
      ++ rowLines widths header
      ++ [frameLine "├" "┼" "┤" widths]
      ++ rows.flatMap (rowLines widths)
      ++ [frameLine "╰" "┴" "╯" widths])

end InstallMatrix.Terminal
