import ScriptOutline.Outline.Record

/-!
# Comma-separated values

A header line and a line for each record. A cell that holds a comma, a quote or a line break stands
in quotes, and a quote inside it is written twice.
-/

namespace ScriptOutline

namespace Csv

/-- Whether a cell has to be quoted. -/
def needsQuotes (cell : List Char) : Bool :=
  cell.any fun c => c == ',' || c == '"' || c == '\n' || c == '\r'

/-- The text inside quotes. -/
def doubleQuotes : List Char → List Char
  | [] => []
  | c :: rest => if c = '"' then '"' :: '"' :: doubleQuotes rest else c :: doubleQuotes rest

/-- A cell. -/
def cell (text : List Char) : List Char :=
  if needsQuotes text then '"' :: (doubleQuotes text ++ ['"']) else text

/-- A line. -/
def line (cells : List String) : List Char :=
  [','].intercalate (cells.map fun s => cell s.toList)

/-- The document, without a line break at its end. -/
def write (records : List Record) : List Char :=
  ['\n'].intercalate (line Record.columns :: records.map fun r => line r.cells)

end Csv

end ScriptOutline
