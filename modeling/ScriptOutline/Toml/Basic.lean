/-!
# TOML documents

A document is a table of entries. A table remembers how it came about, because that decides what may
still be added to it:

* a table with a header of its own, or one written in braces, is defined once;
* a table that a longer header implies may get a header of its own later;
* a table that a dotted key made may be extended by further dotted keys only.
-/

namespace ScriptOutline

namespace Toml

/-- How a table came about. -/
inductive Origin where
  /-- It has a header. -/
  | header
  /-- A header of a table inside it implies it. -/
  | implied
  /-- A dotted key made it. -/
  | dotted
  /-- It was written in braces, and nothing may be added. -/
  | inline
  deriving DecidableEq

/-- A value of a document. -/
inductive Value where
  | string (text : String)
  | integer (value : Int)
  /-- A floating-point number; its value is not kept. -/
  | float
  | boolean (value : Bool)
  /-- A date, a time or both; its value is not kept. -/
  | dateTime
  | array (items : List Value)
  | table (origin : Origin) (entries : List (String × Value))
  /-- An array of tables, made by headers in double brackets. -/
  | tables (elements : List (List (String × Value)))

/-- The entries of a table. -/
abbrev Entries := List (String × Value)

namespace Entries

/-- The value of a key. -/
def get? (entries : Entries) (key : String) : Option Value :=
  (entries.find? fun e => e.1 == key).map (·.2)

/-- With a new value for a key that is there already, or with the key added at the end. -/
def put : Entries → String → Value → Entries
  | [], key, value => [(key, value)]
  | e :: rest, key, value => if e.1 == key then (key, value) :: rest else e :: put rest key value

/-- With a key that must not be there yet. -/
def add? (entries : Entries) (key : String) (value : Value) : Option Entries :=
  if (entries.get? key).isSome then none else some (entries ++ [(key, value)])

/-- Changes the table at the end of a path, whose origin the change is told. Tables on the way that
are missing come about by a dotted key or are implied by a header. A dotted key does not pass
through a table that has a header, and nothing passes through braces. -/
def descend (dotted : Bool) (change : Origin → Entries → Option Entries) :
    List String → Origin → Entries → Option Entries
  | [], origin, entries => change origin entries
  | key :: path, _, entries =>
    match entries.get? key with
    | none =>
      let origin := if dotted then Origin.dotted else .implied
      (descend dotted change path origin []).map fun inner =>
        entries.put key (.table origin inner)
    | some (.table origin inner) =>
      if origin = .inline ∨ (dotted ∧ origin = .header) then none
      else
        (descend dotted change path origin inner).map fun inner =>
          entries.put key (.table origin inner)
    | some (.tables elements) =>
      match elements.reverse with
      | last :: before =>
        (descend dotted change path .header last).map fun last =>
          entries.put key (.tables (last :: before).reverse)
      | [] => none
    | some _ => none

/-- Adds a value under a dotted key: the path of tables, and the last key. Only tables made by
dotted keys are extended so. -/
def addDotted? (entries : Entries) (path : List String) (key : String) (value : Value) :
    Option Entries :=
  descend (!path.isEmpty)
    (fun origin inner =>
      if !path.isEmpty && origin != .dotted then none else inner.add? key value)
    path .header entries

/-- Opens the table of a header: a new one, or one that was implied before. -/
def openTable? (entries : Entries) (path : List String) (key : String) : Option Entries :=
  descend false
    (fun _ inner =>
      match inner.get? key with
      | none => some (inner.put key (.table .header []))
      | some (.table .implied nested) => some (inner.put key (.table .header nested))
      | some _ => none)
    path .header entries

/-- Adds a table to the array of a header in double brackets. -/
def openElement? (entries : Entries) (path : List String) (key : String) : Option Entries :=
  descend false
    (fun _ inner =>
      match inner.get? key with
      | none => some (inner.put key (.tables [[]]))
      | some (.tables elements) => some (inner.put key (.tables (elements ++ [[]])))
      | some _ => none)
    path .header entries

end Entries

end Toml

end ScriptOutline
