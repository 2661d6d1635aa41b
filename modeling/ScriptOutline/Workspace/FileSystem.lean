import ScriptOutline.Workspace.FileTree
import ScriptOutline.Workspace.Path

/-!
# File systems

A tree of files and folders together with the folder in which a program works. A path starts there,
or at the root if it begins with a slash. Every component but the last must be a folder, two dots
lead to the folder above, and a slash at the end asks for a folder.
-/

namespace ScriptOutline

/-- Everything from the root down, and the names that lead to the working folder. -/
structure FileSystem where
  root : FileTree
  place : List String

namespace FileSystem

/-- The names that lead to the entry of a path, given the names of the folder where the path starts
and the components of the path. The folder above the root is the root. -/
def locateFrom (root : FileTree) : List String → List String → Option (List String)
  | place, [] => some place
  | place, part :: rest =>
    match root.get? place with
    | some (.folder _) =>
      if part == "" || part == "." then locateFrom root place rest
      else if part == ".." then locateFrom root place.dropLast rest
      else
        let next := place ++ [part]
        if (root.get? next).isSome then locateFrom root next rest else none
    | _ => none

/-- The names that lead to the entry of a path. -/
def locate? (fs : FileSystem) (path : String) : Option (List String) :=
  if path == "" then none
  else
    locateFrom fs.root (if Path.isAbsolute path then [] else fs.place)
      ((cutAt '/' path.toList).map String.ofList)

/-- The names that lead to a path if two dots always undo the name before them. -/
def nominal (fs : FileSystem) (path : String) : List String :=
  (Path.components path).foldl
    (fun names part => if part == ".." then names.dropLast else names ++ [part])
    (if Path.isAbsolute path then [] else fs.place)

/-- With an entry at a path. -/
def put (fs : FileSystem) (path : String) (t : FileTree) : FileSystem :=
  { fs with root := fs.root.set (fs.nominal path) t }

/-- With a folder at a path, unless there is something. -/
def ensureFolder (fs : FileSystem) (path : String) : FileSystem :=
  if (fs.root.get? (fs.nominal path)).isSome then fs else fs.put path .empty

/-- The entry of a path. -/
def lookup? (fs : FileSystem) (path : String) : Option FileTree :=
  (fs.locate? path).bind fs.root.get?

/-- The bytes of a file. -/
def read? (fs : FileSystem) (path : String) : Option (List UInt8) :=
  match fs.lookup? path with
  | some (.file content) => some content
  | _ => none

/-- The text up to and with the last slash, which is the path of a folder, and the text after it. -/
def splitLast (path : String) : String × String :=
  let reversed := path.toList.reverse
  (String.ofList (reversed.dropWhile (· != '/')).reverse,
    String.ofList (reversed.takeWhile (· != '/')).reverse)

/-- The names that lead to the folder in which a path names an entry. -/
def folderOf? (fs : FileSystem) (above : String) : Option (List String) :=
  if above == "" then some fs.place else fs.locate? above

/-- Writes a file, which must be in a folder that exists and must not be a folder itself. -/
def write? (fs : FileSystem) (path : String) (content : List UInt8) : Option FileSystem :=
  let (above, name) := splitLast path
  if name == "" || name == "." || name == ".." then none
  else
    match fs.folderOf? above with
    | none => none
    | some place =>
      match fs.root.get? place, fs.root.get? (place ++ [name]) with
      | some (.folder _), some (.folder _) => none
      | some (.folder _), _ => some { fs with root := fs.root.set (place ++ [name]) (.file content) }
      | _, _ => none

end FileSystem

end ScriptOutline
