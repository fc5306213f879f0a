import SchemaDraft.Console.Wrap

/-!
A table drawn with lines: a title in the middle, a heading between heavy lines, rows between light
ones. A column is as wide as its widest line with a blank on each side, cells are broken into lines
of that width, and a cell of several lines makes its row as high.
-/

namespace SchemaDraft.Console

/-- The strokes of a horizontal line: its left end, its run, its crossings, its right end. -/
structure Stroke where
  left : Char
  run : Char
  crossing : Char
  right : Char

/-- The line above the heading. -/
def topStroke : Stroke := ⟨'┏', '━', '┳', '┓'⟩

/-- The line below the heading. -/
def headStroke : Stroke := ⟨'┡', '━', '╇', '┩'⟩

/-- The line below the rows. -/
def bottomStroke : Stroke := ⟨'└', '─', '┴', '┘'⟩

/-- A horizontal line over columns of these widths, blanks not counted. -/
def Stroke.line (s : Stroke) (widths : List Nat) : List Char :=
  s.left :: ([s.crossing].intercalate (widths.map fun w => List.replicate (w + 2) s.run)
    ++ [s.right])

/-- One line of a row between bars. -/
def barred (bar : Char) (widths : List Nat) (texts : List (List Char)) : List Char :=
  bar :: (widths.zip texts).flatMap fun (w, cs) => ' ' :: (padTo w cs ++ [' ', bar])

/-- The lines of a row, each cell being filled with empty lines to the height of the highest. -/
def rowLines (bar : Char) (widths : List Nat) (cells : List (List Char)) : List (List Char) :=
  let split := (widths.zip cells).map fun (w, cell) => wrap w cell
  let height := (split.map List.length).foldl max 1
  (List.range height).map fun i => barred bar widths (split.map fun lines => lines.getD i [])

/-- The width of column `i` of some rows. -/
def columnWidth (rows : List (List (List Char))) (i : Nat) : Nat :=
  (rows.map fun row => textWidth (row.getD i [])).foldl max 0

/-- A title in the middle of a width, with the odd blank to the right. -/
def centered (width : Nat) (title : List Char) : List Char :=
  padTo width (List.replicate ((width - Text.cellWidth title) / 2) ' ' ++ title)

/-- The lines of a table. -/
def gridLines (title : List Char) (heading : List (List Char)) (rows : List (List (List Char))) :
    List (List Char) :=
  let widths := (List.range heading.length).map (columnWidth (heading :: rows))
  let top := topStroke.line widths
  centered (Text.cellWidth top) title :: top :: rowLines '┃' widths heading
    ++ headStroke.line widths :: rows.flatMap (rowLines '│' widths)
    ++ [bottomStroke.line widths]

end SchemaDraft.Console
