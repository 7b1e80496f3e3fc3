import TierCascade.Text.Columns
import TierCascade.Text.Lines
/-!
# Tables

A table is drawn with a frame, a row of titles and a line below it. A column is as wide as its
widest cell, and a cell of several lines makes its row as high.
-/

namespace TierCascade.Console

abbrev Cell := List (List Char)

def Cell.ofText (text : String) : Cell := splitAtEach '\n' text.toList

def Cell.width (c : Cell) : Nat := (c.map columns).foldl max 0

def columnWidths : List (List Cell) → List Nat
  | [] => []
  | [row] => row.map Cell.width
  | row :: rows => List.zipWith max (row.map Cell.width) (columnWidths rows)

def ruler (left middle right : Char) (widths : List Nat) : List Char :=
  left :: List.intercalate [middle] (widths.map fun w => List.replicate (w + 2) '─') ++ [right]

def rowLine (widths : List Nat) (row : List Cell) (i : Nat) : List Char :=
  '│' :: List.intercalate ['│']
    (List.zipWith (fun width cell => ' ' :: padColumns width (cell[i]?.getD []) ++ [' ']) widths row)
    ++ ['│']

def rowLines (widths : List Nat) (row : List Cell) : List (List Char) :=
  (List.range ((row.map List.length).foldl max 0)).map (rowLine widths row)

structure Grid where
  titles : List String
  rows : List (List String)

def Grid.lines (g : Grid) : List String :=
  let titles := g.titles.map Cell.ofText
  let rows := g.rows.map (·.map Cell.ofText)
  let widths := columnWidths (titles :: rows)
  ([ruler '╭' '┬' '╮' widths] ++ rowLines widths titles ++ [ruler '├' '┼' '┤' widths]
    ++ rows.flatMap (rowLines widths) ++ [ruler '╰' '┴' '╯' widths]).map String.ofList

end TierCascade.Console
