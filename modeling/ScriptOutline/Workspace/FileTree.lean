/-!
# File trees

Files and folders, each reached from the top by a list of names.
-/

namespace ScriptOutline

/-- A file with its bytes, or a folder with its entries in the order in which they are listed. -/
inductive FileTree where
  | file (content : List UInt8)
  | folder (entries : List (String × FileTree))

namespace FileTree

/-- A folder without entries. -/
def empty : FileTree := .folder []

/-- The entries of a folder; a file has none. -/
def entries : FileTree → List (String × FileTree)
  | .folder es => es
  | .file _ => []

/-- The entry with a name. -/
def entry? (t : FileTree) (name : String) : Option FileTree :=
  (t.entries.find? fun e => e.1 == name).map (·.2)

/-- The entry at the end of a list of names. -/
def get? : FileTree → List String → Option FileTree
  | t, [] => some t
  | t, name :: rest => (t.entry? name).bind fun u => u.get? rest

/-- Sets the entry with a name in a list of entries. -/
def setEntry (name : String) (t : FileTree) : List (String × FileTree) → List (String × FileTree)
  | [] => [(name, t)]
  | e :: rest => if e.1 == name then (name, t) :: rest else e :: setEntry name t rest

/-- Sets the entry at the end of a list of names. Folders on the way that are missing come about;
files on the way are replaced. -/
def set (t : FileTree) : List String → FileTree → FileTree
  | [], new => new
  | name :: rest, new =>
    let old := (t.entry? name).getD empty
    .folder (setEntry name (old.set rest new) t.entries)

end FileTree

end ScriptOutline
