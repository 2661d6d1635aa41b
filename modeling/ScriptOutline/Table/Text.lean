import ScriptOutline.Outline.Record
import ScriptOutline.Text.Blank

/-!
# Text tables

A header, a rule and a row for each record, with columns as wide as their widest cell. Cells are
padded on the right, and white space at the end of a row is cut off.
-/

namespace ScriptOutline

namespace TextTable

/-- The larger width of each column. -/
def widen : List Nat → List String → List Nat
  | w :: ws, cell :: cells => max w cell.length :: widen ws cells
  | ws, _ => ws

/-- The widths of the columns, in characters. -/
def widths (rows : List (List String)) : List Nat :=
  rows.foldl widen (Record.columns.map String.length)

/-- A cell filled with spaces up to a width. -/
def pad (width : Nat) (cell : String) : List Char :=
  cell.toList ++ List.replicate (width - cell.length) ' '

/-- The padded cells of a row. -/
def padRow : List Nat → List String → List (List Char)
  | w :: ws, cell :: cells => pad w cell :: padRow ws cells
  | _, _ => []

/-- A row before the white space at its end is cut off. -/
def fullRow (widths : List Nat) (cells : List String) : List Char :=
  [' ', '|', ' '].intercalate (padRow widths cells)

/-- A row. -/
def row (widths : List Nat) (cells : List String) : List Char := trimEnd (fullRow widths cells)

/-- The line under the header. -/
def rule (widths : List Nat) : List Char :=
  ['-', '+', '-'].intercalate (widths.map (List.replicate · '-'))

/-- The lines of the table. -/
def lines (records : List Record) : List (List Char) :=
  let rows := records.map Record.cells
  let ws := widths rows
  row ws Record.columns :: rule ws :: rows.map (row ws)

/-- The table, without a line break at its end. -/
def write (records : List Record) : List Char := ['\n'].intercalate (lines records)

end TextTable

end ScriptOutline
