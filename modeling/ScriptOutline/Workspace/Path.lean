import ScriptOutline.Dialect
import ScriptOutline.Text.Cut

/-!
# Paths

A path is a text of components separated by slashes. Empty components and single dots, except a dot
at the very start, mean nothing; two dots mean the parent.
-/

namespace ScriptOutline

namespace Path

/-- Whether the path starts at the root of the file system. -/
def isAbsolute (path : String) : Bool := path.toList.head? == some '/'

/-- The components that are neither empty nor a single dot. -/
def components (path : String) : List String :=
  ((cutAt '/' path.toList).map String.ofList).filter fun p => p != "" && p != "."

/-- The last component, if it is a name. -/
def fileName? (path : String) : Option String :=
  match (components path).getLast? with
  | some ".." => none
  | name => name

/-- Whether the last component is the given name. -/
def endsWith (path name : String) : Bool := (components path).getLast? == some name

/-- The text after the last dot of a name, unless that dot is its first character. -/
def nameExtension? (name : String) : Option String :=
  let reversed := name.toList.reverse
  match reversed.dropWhile (· != '.') with
  | [] => none
  | [_] => none
  | _ => some (String.ofList (reversed.takeWhile (· != '.')).reverse)

/-- The extension of the last component. -/
def extension? (path : String) : Option String := (fileName? path).bind nameExtension?

/-- A path with a name after it. -/
def join (path name : String) : String :=
  if path == "" || path.toList.getLast? == some '/' then path ++ name else path ++ "/" ++ name

end Path

/-- The dialect of a file, judged by its extension. -/
def Dialect.ofPath? (path : String) : Option Dialect :=
  (Path.extension? path).bind Dialect.ofExtension?

end ScriptOutline
