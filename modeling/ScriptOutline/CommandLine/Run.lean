import ScriptOutline.CommandLine.Arguments
import ScriptOutline.CommandLine.Reports
import ScriptOutline.Session.Server
import ScriptOutline.Workspace.Loading

/-!
# Running the program

What the program does in a world of files, input and network: it prints something, complains about
something, ends with an exit code, and may have written a file.
-/

namespace ScriptOutline

namespace CommandLine

/-- What the program finds around it. -/
structure World where
  files : FileSystem
  /-- What is typed into the program. -/
  input : List UInt8
  network : Network

/-- Why an action failed. -/
inductive RunError where
  | load (error : LoadError)
  | unknownDialect (name : String)
  | unknownFormat (name : String)
  | noSources
  | uncreatableOutput (path : String)
  | failedInputs (failed total : Nat)
  | bind (message : String)

/-- The wording of an error. -/
def RunError.message : RunError → String
  | .load error => error.message
  | .unknownDialect name => "Unknown dialect: " ++ name
  | .unknownFormat name => "Unknown output format: " ++ name
  | .noSources => "Please provide at least one --input <file>, --folder <dir> or --stdin"
  | .uncreatableOutput path => "Cannot create output file " ++ path
  | .failedInputs failed total =>
    toString failed ++ " of " ++ toString total ++ " inputs failed to analyze"
  | .bind message => message

/-- What the program leaves behind. -/
structure Outcome where
  exit : Nat
  output : List Char := []
  /-- Lines for the user, apart from the output. -/
  complaints : List String := []
  files : FileSystem
  /-- The path of the file that was written. -/
  written : Option String := none

/-- What is printed for the user. -/
def Outcome.errors (outcome : Outcome) : List Char := Reports.printed outcome.complaints

/-- The end of a program that failed. -/
def Outcome.failure (world : World) (error : RunError) : Outcome :=
  { exit := 1, complaints := ["Error: " ++ error.message], files := world.files }

/-- A loading step of an action. -/
def loading {α : Type} (r : Except LoadError α) : Except RunError α :=
  match r with
  | .ok a => .ok a
  | .error e => .error (.load e)

/-- The dialect that was asked for by name, or that of the settings. -/
def chooseDialect (settings : Settings) (name : Option String) : Except RunError Dialect :=
  match name with
  | none => .ok settings.dialect
  | some name =>
    match Dialect.ofName? name with
    | some d => .ok d
    | none => .error (.unknownDialect name)

/-- The format that was asked for by name, or that of the settings. -/
def chooseFormat (settings : Settings) (name : Option String) : Except RunError Format :=
  match name with
  | none => .ok settings.format
  | some name =>
    match Format.ofName? name with
    | some f => .ok f
    | none => .error (.unknownFormat name)

/-- The path under which typed input is reported. -/
def inputPath : String := "<stdin>"

/-- The typed input as a source. -/
def inputSource (world : World) (dialect : Dialect) : Except LoadError Source :=
  match Utf8.decode? world.input with
  | some text => .ok ⟨inputPath, dialect, String.ofList text⟩
  | none => .error .unreadableInput

/-- Loads the sources of an analysis: files, then folders, then the typed input. -/
def loadSources (world : World) (o : AnalyzeOptions) (dialect : Dialect) :
    Except LoadError (List Source) := do
  let files ← o.inputs.mapM fun path => Workspace.loadFile world.files path dialect
  let folders ← o.folders.mapM fun path => Workspace.loadFolder world.files path dialect
  let typed ← if o.stdin then do pure [← inputSource world dialect] else pure []
  return files ++ folders.flatten ++ typed

/-- Puts the output into a file, if one is named. What is left to be printed is the result. -/
def deliver (world : World) (path : Option String) (output : List Char) :
    Except RunError (FileSystem × List Char) :=
  match path with
  | none => .ok (world.files, output)
  | some path =>
    match world.files.write? path (Utf8.encode (String.ofList output)) with
    | some files => .ok (files, [])
    | none => .error (.uncreatableOutput path)

/-- What is written about reports. -/
def result (o : AnalyzeOptions) (format : Format) (reports : List Report) : List Char :=
  if o.emitTree then Reports.writeTrees reports else Reports.writeOutlines format reports

/-- The end of an analysis with these reports, which complains about the sources that have no
outline. -/
def Outcome.ofReports (reports : List Report) (files : FileSystem) (output : List Char)
    (written : Option String) : Outcome :=
  let complaints := Reports.complaints reports
  if complaints.isEmpty then { exit := 0, output, files, written }
  else
    let error := RunError.failedInputs complaints.length reports.length
    { exit := 1, output, complaints := complaints ++ ["Error: " ++ error.message], files, written }

/-- Writes the result of an analysis and ends. -/
def conclude (world : World) (o : AnalyzeOptions) (format : Format) (reports : List Report) :
    Except RunError Outcome :=
  (deliver world o.output (result o format reports)).map fun (files, output) =>
    .ofReports reports files output o.output

/-- Analyses sources and writes the result. -/
def runAnalyze (world : World) (settings : Settings) (o : AnalyzeOptions) :
    Except RunError Outcome := do
  let dialect ← chooseDialect settings o.dialect
  let format ← chooseFormat settings o.format
  let sources ← loading (loadSources world o dialect)
  if sources.isEmpty then throw .noSources
  conclude world o format (analyzeAll settings.nestingLimit sources)

/-- What the settings say to a server. -/
def serverSettings (s : Settings) : ServerSettings :=
  ⟨s.nestingLimit, s.dialect, s.requestLimit⟩

/-- Does what the arguments ask for. A server has the given clients; their answers are the second
result. -/
def runInvocation (world : World) (clients : List (List UInt8)) (i : Invocation) :
    Outcome × List (List String) :=
  match Workspace.loadSettings world.files i.settings with
  | .error e => (.failure world (.load e), [])
  | .ok settings =>
    match i.action with
    | .analyze o =>
      match runAnalyze world settings o with
      | .ok outcome => (outcome, [])
      | .error e => (.failure world e, [])
    | .serve port =>
      let port := port.getD settings.port
      match Server.serve world.network port (serverSettings settings) clients with
      | .ok answers => ({ exit := 0, files := world.files }, answers)
      | .error message => (.failure world (.bind message), [])

/-- The port and the settings of the server that the arguments ask for, if it can be started. -/
def service? (files : FileSystem) (arguments : List String) : Option (Nat × ServerSettings) :=
  match Invocation.ofArguments arguments with
  | .ok ⟨settings, .serve port⟩ =>
    match Workspace.loadSettings files settings with
    | .ok s => some (port.getD s.port, serverSettings s)
    | .error _ => none
  | _ => none

/-- The paths that an invocation reads from. -/
def Invocation.reads (i : Invocation) : List String :=
  i.settings.getD Workspace.defaultSettingsFile ::
    match i.action with
    | .analyze o => o.inputs ++ o.folders
    | .serve _ => []

/-- The path that an invocation writes to. -/
def Invocation.writes? (i : Invocation) : Option String :=
  match i.action with
  | .analyze o => o.output
  | .serve _ => none

/-- Whether an invocation reads what is typed. -/
def Invocation.readsInput (i : Invocation) : Bool :=
  match i.action with
  | .analyze o => o.stdin
  | .serve _ => false

/-- How the program is used. -/
def usageText : String :=
  "Usage: scriptscope [--config <file>] <analyze|serve> [options]"

/-- The version of the program. -/
def versionText : String := "scriptscope 0.1.0"

/-- Runs the program. -/
def run (world : World) (clients : List (List UInt8)) (arguments : List String) :
    Outcome × List (List String) :=
  match Invocation.ofArguments arguments with
  | .ok i => runInvocation world clients i
  | .error .help => ({ exit := 0, output := (usageText ++ "\n").toList, files := world.files }, [])
  | .error .version =>
    ({ exit := 0, output := (versionText ++ "\n").toList, files := world.files }, [])
  | .error .misuse => ({ exit := 2, complaints := [usageText], files := world.files }, [])

end CommandLine

end ScriptOutline
