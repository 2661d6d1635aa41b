import ScriptOutline.Error
import ScriptOutline.Script.Parsing.Parser

/-!
# Syntax errors

What is wrong with a text that is no script. The reading of such a text holds what could not be read
and tokens that are missing; the first of them in the order of the text is reported.
-/

namespace ScriptOutline

namespace Script

/-- The name of a token in a report. -/
def Terminal.label : Terminal → String
  | .text "?." => Kind.optionalChain.plainName
  | .text spelling => spelling
  | .regexEnd => "/"
  | .staticGetter => "static get"
  | .questionMark => "?"
  | t => (t.kind?.map Kind.plainName).getD ""

/-- The length of what is quoted in a report, at most. -/
def quotedLength : Nat := 40

namespace Constituent

/-- What is wrong with a constituent, which is a part of a phrase by some step. -/
def complaint? (t : Table) (c : Constituent) (step : Option Step) : Option Complaint :=
  if c.symbol == Table.unreadable then
    some (.unexpected (String.ofList ((c.start.charactersTo c.stop.offset).take quotedLength)))
  else if c.isMissing && c.isShown t step then
    match step.bind (·.shownAs) with
    | some kind => some (.missing kind.plainName)
    | none => some (.missing ((t.terminals[c.symbol]?.map Terminal.label).getD ""))
  else none

/-- The children of a constituent with their steps. -/
def steps (t : Table) (c : Constituent) : List (Constituent × Option Step) :=
  align c.children (((c.production.bind (t.productions[·]?)).map (·.steps)).getD [])

/-- The first complaint about some constituents, each of which is looked at before its children. -/
def firstComplaint? (t : Table) :
    Nat → List (Constituent × Option Step) → Option (Place × Complaint)
  | 0, _ => none
  | _, [] => none
  | fuel + 1, (c, step) :: rest =>
    match c.complaint? t step with
    | some complaint => some (c.start, complaint)
    | none =>
      firstComplaint? t fuel ((c.steps t).filter (fun (child, _) => 0 < child.cost) ++ rest)

/-- What is wrong with a text, given its reading. -/
def diagnosis (t : Table) (root : Constituent) : AnalysisError :=
  let (place, complaint) := (firstComplaint? t root.size [(root, none)]).getD (root.start, .invalid)
  .syntaxError (place.row + 1) (place.column + 1) complaint

end Constituent

end Script

end ScriptOutline
