import ScriptOutline.CommandLine.Run
import Std.Async.TCP

/-!
# The program

Takes a picture of the files that the arguments name, runs the program in it, and puts what was
written back into place. A server listens on a port of the local machine and takes its clients one
after the other.
-/

namespace ScriptOutline

namespace CommandLine

open Std.Async.TCP.Socket

/-- The entry of a folder that a path names. -/
def entryOf (path : String) : IO.FS.DirEntry :=
  let (above, name) := FileSystem.splitLast path
  ⟨if above == "" then "." else above, name⟩

/-- Whether a path is that of a folder. -/
def isFolder (path : String) : IO Bool := (entryOf path).path.isDir

/-- Reads a file or a folder. Below a folder only what can be a source is read. -/
partial def readEntry (entry : IO.FS.DirEntry) (isNamed : Bool) : IO FileTree := do
  if ← entry.path.isDir then
    if Workspace.isSkipped entry.fileName then return .empty
    let entries ← entry.path.readDir
    return .folder (← entries.toList.mapM fun e => do return (e.fileName, ← readEntry e false))
  else if isNamed || (Dialect.ofPath? entry.fileName).isSome then
    return .file (← IO.FS.readBinFile entry.path).toList
  else return .file []

/-- The paths of the folders that a path leads through. -/
def pathsThrough (path : String) : List String :=
  let parts := (cutAt '/' path.toList).map String.ofList
  (List.range parts.length).map fun n => "/".intercalate (parts.take n)

/-- Adds the folders that a path leads through. -/
def pictureWay (fs : FileSystem) (path : String) : IO FileSystem :=
  (pathsThrough path).foldlM (fun fs above => do
    if above != "" && (← isFolder above) then return fs.ensureFolder above else return fs) fs

/-- Adds what a path names. What cannot be read is left out. -/
def pictureOf (fs : FileSystem) (path : String) : IO FileSystem := do
  let fs ← pictureWay fs path
  try return fs.put path (← readEntry (entryOf path) true)
  catch _ => return fs

/-- Adds the place where a path is to be written. -/
def pictureTarget (fs : FileSystem) (path : String) : IO FileSystem := do
  let fs ← pictureWay fs path
  if ← isFolder path then return fs.ensureFolder path else return fs

/-- The files that an invocation can see. What is further down is read later, because a folder is read
for its sources only. -/
def picture (i : Invocation) : IO FileSystem := do
  let place := Path.components (← IO.currentDir).toString
  let start : FileSystem := ⟨FileTree.empty.set place .empty, place⟩
  let paths := i.reads.mergeSort fun a b =>
    (start.nominal a).length ≤ (start.nominal b).length
  let fs ← paths.foldlM pictureOf start
  match i.writes? with
  | some path => pictureTarget fs path
  | none => return fs

/-- Reads a stream to its end. -/
partial def readAll (stream : IO.FS.Stream) (before : ByteArray) : IO ByteArray := do
  let bytes ← stream.read 65536
  if bytes.isEmpty then return before else readAll stream (before ++ bytes)

/-- Answers what a client sends, until it has sent everything or shuts the server down. -/
partial def attend (settings : ServerSettings) (client : Client) (f : Framing) : IO Bool := do
  let reply (frames : List Frame) : IO Bool := do
    let (lines, ended) := Connection.answers settings frames
    for line in lines do
      (client.send ⟨(Connection.lineBytes line).toArray⟩).block
    return ended
  match ← (client.recv? 65536).block with
  | none => reply f.finish
  | some bytes =>
    let (f, frames) := Framing.feed settings.requestLimit bytes.toList f
    if ← reply frames then return true else attend settings client f

/-- Takes clients until one of them shuts the server down. -/
partial def acceptAll (settings : ServerSettings) (server : Std.Async.TCP.Socket.Server) : IO Unit := do
  let client ← server.accept.block
  let ended ←
    try
      if settings.requestLimit == 0 then pure false else attend settings client .start
    catch _ => pure false
  try client.shutdown.block catch _ => pure ()
  if ended then return else acceptAll settings server

/-- Runs a server. -/
def listen (port : Nat) (settings : ServerSettings) : IO UInt32 := do
  try
    let server ← Std.Async.TCP.Socket.Server.mk
    server.bind (.v4 ⟨.ofParts 127 0 0 1, port.toUInt16⟩)
    server.listen 128
    acceptAll settings server
    return 0
  catch _ =>
    IO.eprintln ("Error: " ++ ScriptOutline.Server.bindMessage port)
    return 1

/-- Puts what was written back into place. -/
def store (outcome : Outcome) : IO Outcome := do
  match outcome.written with
  | none => return outcome
  | some path =>
    let content := (outcome.files.read? path).getD []
    try
      IO.FS.writeBinFile path ⟨content.toArray⟩
      return outcome
    catch _ =>
      return { outcome with
        exit := 1, complaints := ["Error: " ++ (RunError.uncreatableOutput path).message] }

/-- Does what the arguments ask for. -/
def perform (arguments : List String) : IO UInt32 := do
  let invocation := (Invocation.ofArguments arguments).toOption
  let files ← match invocation with
    | some i => picture i
    | none => pure ⟨.empty, []⟩
  match service? files arguments with
  | some (port, settings) => listen port settings
  | none =>
    let input ←
      if (invocation.map Invocation.readsInput).getD false then readAll (← IO.getStdin) .empty
      else pure .empty
    let outcome ← store (run ⟨files, input.toList, .available⟩ [] arguments).1
    let output ← IO.getStdout
    output.putStr (String.ofList outcome.output)
    output.flush
    IO.eprint (String.ofList outcome.errors)
    return outcome.exit.toUInt32

end CommandLine

end ScriptOutline

/-- The entry point. -/
def main (arguments : List String) : IO UInt32 := ScriptOutline.CommandLine.perform arguments
