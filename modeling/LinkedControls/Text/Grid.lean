import LinkedControls.Text.Split
import LinkedControls.Text.Width

/-!
Tables in boxes. A column is as wide as its widest line and a row as high as its highest cell; the text
of a cell stands on the left, with one blank on each side.
-/

namespace LinkedControls.Text.Grid

abbrev Cell := List (List Char)

def cell (s : String) : Cell := splitOn '\n' s.toList

def cellWidth (c : Cell) : Nat := (c.map width).foldl max 0

def columnWidths (header : List Cell) (rows : List (List Cell)) : List Nat :=
  rows.foldl (fun widths row => List.zipWith max widths (row.map cellWidth))
    (header.map fun c => max 1 (cellWidth c))

def padded (columnWidth : Nat) (line : List Char) : List Char :=
  ' ' :: (line ++ List.replicate (columnWidth - width line) ' ' ++ [' '])

def rowHeight (row : List Cell) : Nat := (row.map List.length).foldl max 0

def rowLine (widths : List Nat) (row : List Cell) (i : Nat) : List Char :=
  '│' :: (join ['┆'] (List.zipWith (fun n c => padded n (c.getD i [])) widths row) ++ ['│'])

def rowLines (widths : List Nat) (row : List Cell) : List (List Char) :=
  (List.range (rowHeight row)).map (rowLine widths row)

structure Border where
  left : Char
  fill : Char
  crossing : Char
  right : Char
deriving DecidableEq, Repr

namespace Border

def top : Border := ⟨'┌', '─', '┬', '┐'⟩

def underHeader : Border := ⟨'╞', '═', '╪', '╡'⟩

def betweenRows : Border := ⟨'├', '╌', '┼', '┤'⟩

def bottom : Border := ⟨'└', '─', '┴', '┘'⟩

def line (b : Border) (widths : List Nat) : List Char :=
  b.left :: (join [b.crossing] (widths.map fun n => List.replicate (n + 2) b.fill) ++ [b.right])

end Border

def bodyLines (widths : List Nat) : List (List Cell) → List (List Char)
  | [] => []
  | [row] => rowLines widths row
  | row :: rest =>
      rowLines widths row ++ Border.betweenRows.line widths :: bodyLines widths rest

def lines (header : List String) (rows : List (List String)) : List String :=
  let header := header.map cell
  let rows := rows.map (·.map cell)
  let widths := columnWidths header rows
  (Border.top.line widths :: rowLines widths header ++
    Border.underHeader.line widths :: bodyLines widths rows ++
    [Border.bottom.line widths]).map String.ofList

end LinkedControls.Text.Grid
