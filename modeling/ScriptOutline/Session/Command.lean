import ScriptOutline.Analysis
import ScriptOutline.Session.Request
import ScriptOutline.Table.Format

/-!
# Commands

What a server does on a request: it answers `PING`, outlines a source on `ANALYZE`, and announces its
end on `SHUTDOWN`. An answer is a JSON value or the reason why there is none.
-/

namespace ScriptOutline

/-- What a server is told about analyses. -/
structure ServerSettings where
  nestingLimit : Nat := defaultNestingLimit
  /-- The dialect of sources that come without one. -/
  dialect : Dialect := .script
  /-- The length in bytes from which on a request line is refused. -/
  requestLimit : Nat := 8 * 1024 * 1024

/-- The parameters of an analysis. -/
structure AnalyzeParams where
  source : String
  dialect : Option Dialect

namespace AnalyzeParams

/-- What the parameters are called in messages. -/
def expectation : String := "struct AnalyzeParams"

/-- The source, which is a string. -/
def sourceOf : Json → Except ShapeFault String
  | .string s => .ok s
  | v => .error (.wrongKind v "a string")

/-- The dialect with a name. -/
def dialectNamed (name : String) : Except ShapeFault Dialect :=
  match Dialect.ofKeyword? name with
  | some d => .ok d
  | none => .error (.unknownChoice name ["javascript", "js", "estree", "json"])

/-- The dialect, if there is one: its name, or an object with the name as its only key and `null`
under it. -/
def dialectOf : Json → Except ShapeFault (Option Dialect)
  | .null => .ok none
  | .string name => (dialectNamed name).map some
  | .object [(name, v)] => do
    let d ← dialectNamed name
    if v.isNull then return some d else throw (.wrongKind v "unit")
  | .object _ => .error .notSingle
  | v => .error (.wrongKind v "string or map")

/-- Reads parameters: an object, or an array of the source and perhaps the dialect. In an object the
dialect is looked at first. -/
def ofJson : Json → Except ShapeFault AnalyzeParams
  | .array [] => .error (.wrongLength 0 (expectation ++ " with 2 elements"))
  | .array (source :: rest) => do
    let source ← sourceOf source
    match rest with
    | [] => return ⟨source, none⟩
    | dialect :: more =>
      let dialect ← dialectOf dialect
      if more.isEmpty then return ⟨source, dialect⟩
      else throw (.wrongLength (2 + more.length) "fewer elements in array")
  | .object members => do
    let dialect ← match Json.Members.get? members "dialect" with
      | some v => dialectOf v
      | none => pure none
    match Json.Members.get? members "source" with
    | some v => return ⟨← sourceOf v, dialect⟩
    | none => throw (.missing "source")
  | v => .error (.wrongKind v expectation)

end AnalyzeParams

/-- Why a request was not carried out. -/
inductive CommandError where
  /-- The text is no request. -/
  | invalidRequest (text : List Char) (failure : Request.Failure)
  | unknownCommand (name : String)
  | missingParams
  | invalidParams (fault : ShapeFault)
  /-- The source has no outline. -/
  | analysis (error : AnalysisError)

/-- The wording of an error. -/
def CommandError.message : CommandError → String
  | .invalidRequest text failure => "Invalid JSON format: " ++ failure.message text
  | .unknownCommand name => "Unknown command: " ++ name
  | .missingParams => "Missing params for ANALYZE"
  | .invalidParams fault => "Invalid params for ANALYZE: " ++ fault.message
  | .analysis error => error.message

/-- An analysis as the server sends it. -/
def Analysis.toJson (dialect : Dialect) (a : Analysis) : Json :=
  .object [("ast", a.tree.toEstree), ("dialect", .string dialect.title),
    ("records", Format.recordsJson a.records), ("rows", .ofNat a.records.length)]

/-- Outlines the source of a request. -/
def analyzeRequest (settings : ServerSettings) (params : Option Json) : Except CommandError Json :=
  match params with
  | none => .error .missingParams
  | some v =>
    match AnalyzeParams.ofJson v with
    | .error fault => .error (.invalidParams fault)
    | .ok params =>
      let dialect := params.dialect.getD settings.dialect
      match analyze dialect settings.nestingLimit params.source.toList with
      | .ok a => .ok (a.toJson dialect)
      | .error e => .error (.analysis e)

/-- The command that ends the server. -/
def shutdownCommand : String := "SHUTDOWN"

/-- Carries out a request. -/
def Request.run (settings : ServerSettings) (r : Request) : Except CommandError Json :=
  if r.command = "PING" then .ok (.string "PONG")
  else if r.command = "ANALYZE" then analyzeRequest settings r.params
  else if r.command = shutdownCommand then .ok (.string "Shutting down...")
  else .error (.unknownCommand r.command)

/-- Reads a request and carries it out. -/
def processCommand (settings : ServerSettings) (text : List Char) : Except CommandError Json :=
  match Request.parse text with
  | .ok r => r.run settings
  | .error f => .error (.invalidRequest text f)

/-- Whether a text is the request to end the server. -/
def isShutdown (text : List Char) : Bool :=
  match Request.parse text with
  | .ok r => r.command == shutdownCommand
  | .error _ => false

end ScriptOutline
