import ScriptOutline.Outline.Record

/-!
# HTML tables

One table element with a header row and a row for each record. In cell text the characters that
could be taken for markup are written as entities.
-/

namespace ScriptOutline

namespace Html

/-- The characters that could be taken for markup with the entities written for them, in the order
in which they are replaced. -/
def entities : List (Char × List Char) :=
  [('&', "&amp;".toList), ('<', "&lt;".toList), ('>', "&gt;".toList), ('"', "&quot;".toList)]

/-- A text with every occurrence of a character replaced. -/
def replace (c : Char) (new text : List Char) : List Char :=
  text.flatMap fun d => if d = c then new else [d]

/-- Cell text without markup characters. They are replaced in one pass for each of them, so the
ampersand comes first: a later pass would find it in the entities of the earlier ones. -/
def escape (text : List Char) : List Char :=
  entities.foldl (fun text entity => replace entity.1 entity.2 text) text

/-- An element with the given name around a text. -/
def element (name : String) (inside : List Char) : List Char :=
  ("<" ++ name ++ ">").toList ++ inside ++ ("</" ++ name ++ ">").toList

/-- A row of cells, indented by two spaces. -/
def row (cells : List (List Char)) : List Char :=
  ' ' :: ' ' :: element "tr" cells.flatten

/-- The lines of the table. -/
def lines (records : List Record) : List (List Char) :=
  "<table id=\"resultTable\">".toList ::
    row (Record.columns.map fun c => element "th" c.toList) ::
    (records.map (fun r => row (r.cells.map fun c => element "td" (escape c.toList))) ++
      ["</table>".toList])

/-- The table, without a line break at its end. -/
def write (records : List Record) : List Char := ['\n'].intercalate (lines records)

end Html

end ScriptOutline
