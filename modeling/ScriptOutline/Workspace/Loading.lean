import ScriptOutline.Analysis
import ScriptOutline.Settings
import ScriptOutline.Text.Utf8
import ScriptOutline.Workspace.FileSystem

/-!
# Loading

Finding the sources and the settings in a file system. A folder yields the files of one dialect, at
any depth but not below folders of installed packages or of version control, in the order of their
paths.
-/

namespace ScriptOutline

/-- Why something could not be loaded. -/
inductive LoadError where
  | unreadableFile (path : String)
  | missingFolder (path : String)
  | unreadableSettings (path : String)
  | invalidSettings (path : String)
  | unreadableInput

/-- The wording of an error. -/
def LoadError.message : LoadError → String
  | .unreadableFile path => "Failed to read file " ++ path
  | .missingFolder path => "Folder not found: " ++ path
  | .unreadableSettings path => "Failed to read config file " ++ path
  | .invalidSettings path => "In " ++ path
  | .unreadableInput => "Failed to read stdin"

namespace Workspace

/-- The text of a file. -/
def readText? (fs : FileSystem) (path : String) : Option (List Char) :=
  (fs.read? path).bind Utf8.decode?

/-- Loads a file. Its dialect is told by its extension, or else is the given one. -/
def loadFile (fs : FileSystem) (path : String) (fallback : Dialect) : Except LoadError Source :=
  match readText? fs path with
  | some text =>
    .ok ⟨path, (Dialect.ofPath? path).getD fallback, String.ofList text⟩
  | none => .error (.unreadableFile path)

/-- Whether a folder is passed over. -/
def isSkipped (path : String) : Bool := Path.endsWith path "node_modules" || Path.endsWith path ".git"

/-- A file found under a path, as a source if it is of the dialect. -/
def sourceOf (path : String) (dialect : Dialect) (content : List UInt8) :
    Except LoadError (List Source) :=
  if Dialect.ofPath? path = some dialect then
    match Utf8.decode? content with
    | some text => .ok [⟨path, dialect, String.ofList text⟩]
    | none => .error (.unreadableFile path)
  else .ok []

mutual

/-- The sources of a dialect in a file or folder that was found under a path, in the order in which
they are listed. -/
def collect (dialect : Dialect) (path : String) : FileTree → Except LoadError (List Source)
  | .file content => sourceOf path dialect content
  | .folder entries => if isSkipped path then .ok [] else collectAll dialect path entries

/-- The sources among the entries of a folder. -/
def collectAll (dialect : Dialect) (path : String) :
    List (String × FileTree) → Except LoadError (List Source)
  | [] => .ok []
  | (name, t) :: rest => do
    let found ← collect dialect (Path.join path name) t
    return found ++ (← collectAll dialect path rest)

end

/-- Drops sources whose path is that of the one before, given that path. -/
def dropRepeated : Option String → List Source → List Source
  | _, [] => []
  | before, s :: rest =>
    if before == some s.path then dropRepeated before rest
    else s :: dropRepeated (some s.path) rest

/-- Loads the sources of a dialect in a folder, in the order of their paths. -/
def loadFolder (fs : FileSystem) (path : String) (dialect : Dialect) :
    Except LoadError (List Source) :=
  if isSkipped path then .ok []
  else
    match fs.lookup? path with
    | none => .error (.missingFolder path)
    | some t => do
      let sources ← collect dialect path t
      return dropRepeated none (sources.mergeSort fun a b => a.path ≤ b.path)

/-- The file that settings are read from unless another one is named. -/
def defaultSettingsFile : String := "scriptscope.toml"

/-- Loads settings from a file. -/
def loadSettingsFrom (fs : FileSystem) (path : String) : Except LoadError Settings :=
  match readText? fs path with
  | none => .error (.unreadableSettings path)
  | some text =>
    match Settings.ofToml? text with
    | some s => .ok s
    | none => .error (.invalidSettings path)

/-- Loads settings from the file that is named, or from the usual one if that exists. -/
def loadSettings (fs : FileSystem) (path : Option String) : Except LoadError Settings :=
  match path with
  | some path => loadSettingsFrom fs path
  | none =>
    match fs.read? defaultSettingsFile with
    | some _ => loadSettingsFrom fs defaultSettingsFile
    | none => .ok {}

end Workspace

end ScriptOutline
