import ScriptOutline.Analysis
import ScriptOutline.Table.Format

/-!
# Reports

How the reports on several sources become one output. A single source is written alone. Several
sources are written one after the other under headings, or as one JSON object with their paths as
keys; there, the last of the reports on one path counts. Sources without an outline are complained
about and left out.
-/

namespace ScriptOutline

namespace Reports

/-- The reports on sources that have an outline. -/
def succeeded (reports : List Report) : List (String × Analysis) :=
  reports.filterMap fun r =>
    match r.outcome with
    | .ok a => some (r.path, a)
    | .error _ => none

/-- A line on each source that has no outline. -/
def complaints (reports : List Report) : List String :=
  reports.filterMap fun r =>
    match r.outcome with
    | .ok _ => none
    | .error e => some (r.path ++ ": " ++ e.message)

/-- Lines as they are printed. -/
def printed (lines : List String) : List Char := lines.flatMap fun line => line.toList ++ ['\n']

/-- Values by path, in the order of the paths. -/
def byPath (values : List (String × Json)) : Json :=
  .object (values.foldl (fun members (path, v) => Json.Members.put path v members) [])

/-- A JSON document with a line break at the end. -/
def document (v : Json) : List Char := v.pretty ++ ['\n']

/-- The heading of a source. -/
def heading (path : String) : List Char := "== ".toList ++ path.toList ++ " ==\n".toList

/-- Writes the trees. -/
def writeTrees (reports : List Report) : List Char :=
  let trees := (succeeded reports).map fun (path, a) => (path, a.tree.toEstree)
  if reports.length = 1 then trees.flatMap fun (_, tree) => document tree
  else document (byPath trees)

/-- Writes the outlines. -/
def writeOutlines (format : Format) (reports : List Report) : List Char :=
  let outlines := (succeeded reports).map fun (path, a) => (path, a.records)
  if reports.length = 1 then outlines.flatMap fun (_, records) => format.write records
  else
    match format with
    | .json =>
      document (byPath (outlines.map fun (path, records) => (path, Format.recordsJson records)))
    | .none => []
    | _ => outlines.flatMap fun (path, records) => heading path ++ format.write records

end Reports

end ScriptOutline
