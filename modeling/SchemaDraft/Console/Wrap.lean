import SchemaDraft.Text.Blank
import SchemaDraft.Text.CellWidth
import SchemaDraft.Text.Pieces

/-!
Text laid out in lines of a width. Tabs move to the next stop, a line that is too wide goes on in
another one at a word's start, and blanks that stick out are dropped. What is then still too wide,
is cut short and ends with a mark.
-/

namespace SchemaDraft.Console

open SchemaDraft.Text

/-- Characters that end a line where the width of a text is measured. -/
def endsLine (c : Char) : Bool :=
  ['\n', '\x1c', '\x1d', '\x1e', '\u0085', '\u2028', '\u2029'].contains c

/-- The width of a text: that of its widest line. -/
def textWidth (cs : List Char) : Nat :=
  ((textLines (cs.map fun c => if endsLine c then '\n' else c)).map cellWidth).foldl max 0

/-! ### Tabs -/

/-- The cells from one tab stop to the next. -/
def tabStop : Nat := 8

/-- The blanks from a cell to the next tab stop, none at a stop. -/
def toTabStop (cells : Nat) : Nat := (tabStop - cells % tabStop) % tabStop

/-- Parts between tabs, put together from a cell on: each tab is a blank and fills up to a tab stop.
-/
def fillTabs (cells : Nat) : List (List Char) → List Char
  | [] => []
  | [part] => part
  | part :: parts =>
    let reached := cells + cellWidth (part ++ [' '])
    part ++ ' ' :: (List.replicate (toTabStop reached) ' '
      ++ fillTabs (reached + toTabStop reached) parts)

/-- A line with blanks in place of its tabs. -/
def expandTabs (line : List Char) : List Char := fillTabs 0 (piecesAt '\t' line)

/-! ### Words -/

/-- Runs of characters that are not blank, each with the blanks after it; the blanks before the
first one are a run of their own. -/
def runs : List Char → List (List Char)
  | [] => []
  | c :: cs =>
    match cs, runs cs with
    | d :: _, run :: more =>
      if isBlank c && !isBlank d then [c] :: run :: more else (c :: run) :: more
    | _, more => [c] :: more

/-- The words of a line, each with the blanks after it, the first one also with the blanks before
it. -/
def words (line : List Char) : List (List Char) :=
  match runs line with
  | first :: second :: more =>
    if first.all isBlank then (first ++ second) :: more else first :: second :: more
  | few => few

/-- The lines of some words, after a line of `used` cells that is already begun. A word fits if it
does so without the blanks after it. -/
def fillLines (width used : Nat) (line : List Char) : List (List Char) → List (List Char)
  | [] => [line]
  | word :: more =>
    if used + cellWidth (trimRight word) ≤ width then
      fillLines width (used + cellWidth word) (line ++ word) more
    else line :: fillLines width (cellWidth word) word more

/-- The lines that a line is broken into. -/
def breakLine (width : Nat) (line : List Char) : List (List Char) :=
  match words line with
  | [] => [[]]
  | word :: more => fillLines width (cellWidth word) word more

/-! ### Width -/

/-- The blanks that fill a text to a width. A joiner at its end takes up the first one. -/
def blanksTo (width : Nat) (cs : List Char) : Nat :=
  let missing := width - cellWidth cs
  if 0 < missing ∧ (measure cs).joined = true then missing + 1 else missing

def padTo (width : Nat) (cs : List Char) : List Char :=
  cs ++ List.replicate (blanksTo width cs) ' '

/-- The characters of a text that fit into a width, after what is measured already. -/
def cutFrom (width : Nat) (m : Measure) : List Char → List Char
  | [] => []
  | c :: cs => if (m.step c).cells ≤ width then c :: cutFrom width (m.step c) cs else []

/-- A line without the blanks at its end by which it has more characters than a width. -/
def dropOverhang (width : Nat) (line : List Char) : List Char :=
  line.take (max width (trimRight line).length)

/-- A line, cut short with a mark at its end if it is too wide. -/
def shorten (width : Nat) (line : List Char) : List Char :=
  if cellWidth line ≤ width then line
  else padTo (width - 1) (cutFrom (width - 1) Measure.start line) ++ ['…']

/-- The lines of a text in a column of a width. -/
def wrap (width : Nat) (cs : List Char) : List (List Char) :=
  (textLines cs).flatMap fun line =>
    (breakLine width (expandTabs line)).map fun part => shorten width (dropOverhang width part)

end SchemaDraft.Console
