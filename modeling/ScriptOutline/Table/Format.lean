import ScriptOutline.Json.Writer
import ScriptOutline.Table.Csv
import ScriptOutline.Table.Html
import ScriptOutline.Table.Text

/-!
# Output formats

The formats in which a list of records can be written.
-/

namespace ScriptOutline

/-- An output format. -/
inductive Format where
  /-- An aligned table. -/
  | text
  /-- An array of objects. -/
  | json
  | html
  | csv
  /-- Nothing at all. -/
  | none
  deriving DecidableEq

namespace Format

/-- The format with a name, in any case; a table is text. -/
def ofName? (name : String) : Option Format :=
  let word := name.toList.map Char.toLower
  if word = "text".toList ∨ word = "table".toList then some .text
  else if word = "json".toList then some .json
  else if word = "html".toList then some .html
  else if word = "csv".toList then some .csv
  else if word = "none".toList then some .none
  else Option.none

/-- The format with a name spelled exactly so. -/
def ofKeyword? (name : String) : Option Format :=
  if name = "text" then some .text
  else if name = "json" then some .json
  else if name = "html" then some .html
  else if name = "csv" then some .csv
  else if name = "none" then some .none
  else Option.none

/-- The records as a JSON array. -/
def recordsJson (records : List Record) : Json := .array (records.map Record.toJson)

/-- The records in this format. Every format but `none` ends with a line break. -/
def write (format : Format) (records : List Record) : List Char :=
  match format with
  | .text => TextTable.write records ++ ['\n']
  | .json => (recordsJson records).pretty ++ ['\n']
  | .html => Html.write records ++ ['\n']
  | .csv => Csv.write records ++ ['\n']
  | .none => []

end Format

end ScriptOutline
