import ScriptOutline.Script.Convert
import ScriptOutline.Script.Diagnosis

/-!
# Reading scripts

A script is read in two steps: its text becomes a concrete tree, and that an abstract one
(`Convert.toProgram`). A text is a script if it can be read without an error. Only the second step
knows of the limit on nesting.
-/

namespace ScriptOutline

namespace Script

/-- The concrete tree of a script. -/
def tree (source : List Char) : Except AnalysisError Tree :=
  match parse source with
  | none => .error (.syntaxError 1 1 .invalid)
  | some root =>
    if root.cost == 0 then .ok (.node .program root.pieces.toList) else .error (root.diagnosis table)

/-- Reads a text with a grammar, which gives its concrete tree, and a limit on nesting. -/
def readWith (grammar : List Char → Except AnalysisError Tree) (limit : Nat)
    (source : List Char) : Except AnalysisError Node := do
  Convert.toProgram limit (← grammar source)

/-- Reads a text as a script, with a limit on the nesting of its tree. -/
def read (limit : Nat) (source : List Char) : Except AnalysisError Node := readWith tree limit source

end Script

end ScriptOutline
