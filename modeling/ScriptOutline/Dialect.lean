/-!
# Dialects

A dialect says how an input text is to be read: as script source, or as a syntax tree in JSON.
Files are told apart by the extension of their names.
-/

namespace ScriptOutline

/-- How an input text is read. -/
inductive Dialect where
  /-- JavaScript source. -/
  | script
  /-- An ESTree syntax tree in JSON. -/
  | estree
  deriving DecidableEq

namespace Dialect

/-- The name shown to the user. -/
def title : Dialect → String
  | .script => "JavaScript"
  | .estree => "ESTree JSON"

/-- The file name extensions of the dialect. -/
def extensions : Dialect → List String
  | .script => ["js", "mjs", "cjs"]
  | .estree => ["json"]

/-- The dialect with a name, in any case. Only ASCII letters are folded: no other character has one
of these names as its lower case. -/
def ofName? (name : String) : Option Dialect :=
  let word := name.toList.map Char.toLower
  if word = "js".toList ∨ word = "javascript".toList then some .script
  else if word = "estree".toList ∨ word = "json".toList then some .estree
  else none

/-- The dialect with a name spelled exactly so. -/
def ofKeyword? (name : String) : Option Dialect :=
  if name = "js" ∨ name = "javascript" then some .script
  else if name = "estree" ∨ name = "json" then some .estree
  else none

/-- The dialect to which an extension belongs, in any case. -/
def ofExtension? (extension : String) : Option Dialect :=
  let word := String.ofList (extension.toList.map Char.toLower)
  [Dialect.script, Dialect.estree].find? fun d => d.extensions.contains word

end Dialect

end ScriptOutline
