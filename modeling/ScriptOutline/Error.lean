import ScriptOutline.Json.Fault
import ScriptOutline.Json.Writer

/-!
# Analysis errors

Why a text has no outline, and the wording of each reason.
-/

namespace ScriptOutline

/-- What is wrong at the place of a syntax error. -/
inductive Complaint where
  /-- A piece of source that fits nowhere. -/
  | unexpected (source : String)
  /-- A token that should stand there. -/
  | missing (token : String)
  /-- Something that no visible token shows. -/
  | invalid
  deriving DecidableEq

/-- The wording of a complaint. -/
def Complaint.message : Complaint → String
  | .unexpected source => "unexpected '" ++ source ++ "'"
  | .missing token => "missing '" ++ token ++ "'"
  | .invalid => "invalid syntax"

/-- Why a text has no outline. -/
inductive AnalysisError where
  /-- The text is no script. Lines and columns count from one, columns in bytes. -/
  | syntaxError (line column : Nat) (complaint : Complaint)
  /-- A part that a node of this kind must have is missing. -/
  | malformedNode (kind slot : String)
  /-- The text nests deeper than the limit. -/
  | nestingTooDeep (limit : Nat)
  /-- The text is not JSON. -/
  | notJson (fault : String)
  /-- A JSON value stands where a node should. -/
  | notANode (found : Json)
  /-- The root of the tree is of another kind than a program. -/
  | rootNotProgram (kind : String)

/-- The wording of an error. -/
def AnalysisError.message : AnalysisError → String
  | .syntaxError line column complaint =>
    "Parse error at " ++ toString line ++ ":" ++ toString column ++ ": " ++ complaint.message
  | .malformedNode kind slot => "Malformed " ++ kind ++ " node: missing required '" ++ slot ++ "'"
  | .nestingTooDeep limit => "Nesting deeper than " ++ toString limit ++ " levels"
  | .notJson fault => "Invalid input: ESTree JSON: " ++ fault
  | .notANode found => "Invalid input: expected an ESTree node object, found " ++ found.text
  | .rootNotProgram kind => "Invalid input: expected a Program at the root, found " ++ kind

end ScriptOutline
