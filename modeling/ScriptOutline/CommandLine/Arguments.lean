import ScriptOutline.Dialect
import ScriptOutline.Number.Power

/-!
# Arguments

What the arguments of the program ask for. The first argument that is no option names the action;
the options of the action follow it. A value is attached to its option or is the next argument. An
option may be given once, unless it says otherwise.
-/

namespace ScriptOutline

namespace CommandLine

/-- The options. -/
inductive Flag where
  | config
  | input
  | folder
  | stdin
  | dialect
  | format
  | output
  | emitAst
  | port
  deriving DecidableEq

namespace Flag

/-- The name after two hyphens. -/
def long : Flag → String
  | .config => "config"
  | .input => "input"
  | .folder => "folder"
  | .stdin => "stdin"
  | .dialect => "dialect"
  | .format => "format"
  | .output => "output"
  | .emitAst => "emit-ast"
  | .port => "port"

/-- The letter after one hyphen, if there is one. -/
def short? : Flag → Option Char
  | .config => some 'c'
  | .input => some 'i'
  | .folder => some 'd'
  | .format => some 'f'
  | .output => some 'o'
  | .port => some 'p'
  | _ => none

/-- Whether the option has a value. -/
def takesValue : Flag → Bool
  | .stdin | .emitAst => false
  | _ => true

/-- Whether the option may be repeated. -/
def isRepeatable : Flag → Bool
  | .input | .folder => true
  | _ => false

/-- Whether the value is a path. -/
def isPath : Flag → Bool
  | .config | .input | .folder | .output => true
  | _ => false

end Flag

/-- The options that stand before the action. -/
def generalFlags : List Flag := [.config]

/-- The options of an analysis. -/
def analyzeFlags : List Flag :=
  [.config, .input, .folder, .stdin, .dialect, .format, .output, .emitAst]

/-- The options of the server. -/
def serveFlags : List Flag := [.config, .port]

/-- Why arguments ask for nothing that can be done. -/
inductive Usage where
  /-- They ask how the program is used. -/
  | help
  /-- They ask for the version of the program. -/
  | version
  /-- They are wrong. -/
  | misuse
  deriving DecidableEq

/-- A port number. A sign may stand before it, a minus only before zero. -/
def port? (text : String) : Option Nat :=
  let (isNegative, digits) := match text.toList with
    | '+' :: rest => (false, rest)
    | '-' :: rest => (true, rest)
    | cs => (false, cs)
  if digits.isEmpty || !digits.all Char.isDigit then none
  else
    let n := digits.foldl (fun n c => n * 10 + (c.toNat - '0'.toNat)) 0
    if n < twoPow 16 && !(isNegative && 0 < n) then some n else none

/-- Whether an option can have a value: a path cannot be empty, and a port is a number. -/
def Flag.accepts (flag : Flag) (value : String) : Bool :=
  if flag.isPath then value != ""
  else if flag = .port then (port? value).isSome
  else true

/-- The options that were given, with their values, in reverse. -/
abbrev Given := List (Flag × String)

namespace Given

/-- Whether an option was given. -/
def has (g : Given) (flag : Flag) : Bool := g.any fun e => e.1 == flag

/-- The value of an option. -/
def value? (g : Given) (flag : Flag) : Option String := (g.find? fun e => e.1 == flag).map (·.2)

/-- The values of an option in the order in which they were given. -/
def values (g : Given) (flag : Flag) : List String :=
  (g.reverse.filter fun e => e.1 == flag).map (·.2)

/-- With another option. -/
def add (g : Given) (flag : Flag) (value : String) : Except Usage Given :=
  if (g.has flag && !flag.isRepeatable) || !flag.accepts value then .error .misuse
  else .ok ((flag, value) :: g)

end Given

/-- Whether an argument is an option rather than a value. -/
def isOption (argument : String) : Bool :=
  match argument.toList with
  | '-' :: _ :: _ => true
  | _ => false

/-- Takes an option whose value, if any, is attached, or else is the next argument. The result has
the arguments that are left. -/
def takeFlag (g : Given) (flag : Flag) (attached : Option String) (rest : List String) :
    Except Usage (Given × List String) :=
  if flag.takesValue then
    match attached, rest with
    | some value, _ => (g.add flag value).map fun g => (g, rest)
    | none, value :: rest =>
      if isOption value then .error .misuse else (g.add flag value).map fun g => (g, rest)
    | none, [] => .error .misuse
  else if attached.isSome then .error .misuse
  else (g.add flag "").map fun g => (g, rest)

/-- Takes an option with two hyphens, without these. -/
def takeLong (allowed : List Flag) (isTop : Bool) (g : Given) (body : List Char)
    (rest : List String) : Except Usage (Given × List String) :=
  let name := String.ofList (body.takeWhile (· != '='))
  let attached := match body.dropWhile (· != '=') with
    | [] => none
    | _ :: value => some (String.ofList value)
  match allowed.find? fun f => f.long == name with
  | some flag => takeFlag g flag attached rest
  | none =>
    if name == "help" && attached.isNone then .error .help
    else if name == "version" && isTop && attached.isNone then .error .version
    else .error .misuse

/-- Takes an option with one hyphen, without that. -/
def takeShort (allowed : List Flag) (isTop : Bool) (g : Given) (body : List Char)
    (rest : List String) : Except Usage (Given × List String) :=
  match body with
  | [] => .error .misuse
  | letter :: value =>
    match allowed.find? fun f => f.short? == some letter with
    | some flag =>
      let attached := match value with
        | [] => none
        | '=' :: value => some (String.ofList value)
        | value => some (String.ofList value)
      takeFlag g flag attached rest
    | none =>
      if letter == 'h' then .error .help
      else if letter == 'V' && isTop then .error .version
      else .error .misuse

/-- Takes options up to the first argument that is none. `fuel` bounds their number. -/
def takeFlags (allowed : List Flag) (isTop : Bool) :
    Nat → Given → List String → Except Usage (Given × List String)
  | 0, g, arguments => .ok (g, arguments)
  | _, g, [] => .ok (g, [])
  | fuel + 1, g, argument :: rest =>
    match argument.toList with
    | ['-', '-'] => if rest.isEmpty && !isTop then .ok (g, []) else .error .misuse
    | '-' :: '-' :: body => do
      let (g, rest) ← takeLong allowed isTop g body rest
      takeFlags allowed isTop fuel g rest
    | '-' :: c :: body => do
      let (g, rest) ← takeShort allowed isTop g (c :: body) rest
      takeFlags allowed isTop fuel g rest
    | _ => .ok (g, argument :: rest)

/-- What an analysis is asked to do. -/
structure AnalyzeOptions where
  inputs : List String
  folders : List String
  stdin : Bool
  dialect : Option String
  format : Option String
  output : Option String
  emitTree : Bool

/-- What the program is asked to do. -/
inductive Action where
  | analyze (options : AnalyzeOptions)
  | serve (port : Option Nat)

/-- What the arguments ask for. -/
structure Invocation where
  /-- The file with the settings. -/
  settings : Option String
  action : Action

/-- The options of an analysis that were given. -/
def AnalyzeOptions.ofGiven (g : Given) : AnalyzeOptions where
  inputs := g.values .input
  folders := g.values .folder
  stdin := g.has .stdin
  dialect := g.value? .dialect
  format := g.value? .format
  output := g.value? .output
  emitTree := g.has .emitAst

/-- Reads the options of an action. Nothing may follow them. -/
def actionFlags (allowed : List Flag) (arguments : List String) : Except Usage Given := do
  let (g, rest) ← takeFlags allowed false arguments.length [] arguments
  if rest.isEmpty then return g else throw .misuse

/-- What comes of a question for help, which may name what it is about. -/
def helpAbout : List String → Usage
  | [] => .help
  | [topic] => if ["analyze", "serve", "help"].contains topic then .help else .misuse
  | _ => .misuse

/-- Reads the arguments. Of two files with settings, the one after the action counts. -/
def Invocation.ofArguments (arguments : List String) : Except Usage Invocation := do
  let (general, rest) ← takeFlags generalFlags true arguments.length [] arguments
  let settings (g : Given) : Option String :=
    (g.value? .config).orElse fun _ => general.value? .config
  match rest with
  | "analyze" :: rest =>
    let g ← actionFlags analyzeFlags rest
    return ⟨settings g, .analyze (.ofGiven g)⟩
  | "serve" :: rest =>
    let g ← actionFlags serveFlags rest
    return ⟨settings g, .serve ((g.value? .port).bind port?)⟩
  | "help" :: topics => throw (helpAbout topics)
  | _ => throw .misuse

end CommandLine

end ScriptOutline
