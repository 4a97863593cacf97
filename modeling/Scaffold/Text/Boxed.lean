import Scaffold.Text.Columns
import Scaffold.Text.Lines
import Scaffold.Text.Pieces

/-! Tables in boxes of line characters. Every cell may have several lines; a column is as wide as
its widest line and one blank on either side. A double line is drawn under the heading and a dashed
one between rows. -/

namespace Scaffold.Text.Boxed

structure Rule where
  left : String
  dash : String
  cross : String
  right : String

def top : Rule := ⟨"┌", "─", "┬", "┐"⟩

def underHeading : Rule := ⟨"╞", "═", "╪", "╡"⟩

def betweenRows : Rule := ⟨"├", "╌", "┼", "┤"⟩

def bottom : Rule := ⟨"└", "─", "┴", "┘"⟩

def times (n : Nat) (s : String) : String :=
  String.join (List.replicate n s)

def Rule.draw (rule : Rule) (widths : List Nat) : String :=
  rule.left ++ rule.cross.intercalate (widths.map fun w => times (w + 2) rule.dash) ++ rule.right

abbrev Cell := List String

def cellOf (content : String) : Cell :=
  Pieces.split '\n' content

def cellWidth (cell : Cell) : Nat :=
  (cell.map Columns.width).foldl max 0

def columnWidths : List (List Cell) → List Nat
  | [] => []
  | [row] => row.map cellWidth
  | row :: rest => List.zipWith max (row.map cellWidth) (columnWidths rest)

def pad (width : Nat) (line : String) : String :=
  " " ++ line ++ times (width - Columns.width line) " " ++ " "

/-- One line of a row; cells with fewer lines are blank there. -/
def drawLine (widths : List Nat) (row : List Cell) (i : Nat) : String :=
  "│" ++ "┆".intercalate (List.zipWith (fun w cell => pad w (cell[i]?.getD "")) widths row) ++ "│"

def drawRow (widths : List Nat) (row : List Cell) : String :=
  Lines.join ((List.range ((row.map List.length).foldl max 0)).map (drawLine widths row))

def draw (heading : List String) (rows : List (List String)) : String :=
  let heading := heading.map cellOf
  let rows := rows.map (·.map cellOf)
  let widths := columnWidths (heading :: rows)
  let between := "\n" ++ betweenRows.draw widths ++ "\n"
  Lines.join [top.draw widths, drawRow widths heading, underHeading.draw widths,
    between.intercalate (rows.map (drawRow widths)), bottom.draw widths]

end Scaffold.Text.Boxed
