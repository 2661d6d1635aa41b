import ScriptOutline.Toml.Scalar

/-!
# Reading TOML

`Toml.parse?` reads a text as a document. Why a text is no document is not told.
-/

namespace ScriptOutline

namespace Toml

/-- The outcome of reading at the start of a text. -/
abbrev Read (α : Type) := Option (α × List Char)

/-- Without spaces and tabs at the start. -/
def skipSpaces (cs : List Char) : List Char := cs.dropWhile isSpace

/-- The text after a comment, if one starts here; a comment ends before the line does. -/
def skipComment (cs : List Char) : List Char :=
  match cs with
  | '#' :: rest => rest.dropWhile isPrintable
  | _ => cs

/-- The text after the end of a line; the end of the text is one too. -/
def lineEnd? (cs : List Char) : Option (List Char) :=
  match skipComment (skipSpaces cs) with
  | [] => some []
  | '\n' :: rest => some rest
  | '\r' :: '\n' :: rest => some rest
  | _ => none

/-- Without spaces, comments and line breaks at the start, `fuel` of which at most. -/
def skipLines : Nat → List Char → List Char
  | 0, cs => cs
  | fuel + 1, cs =>
    let rest := skipComment (skipSpaces cs)
    match rest with
    | '\n' :: rest => skipLines fuel rest
    | '\r' :: '\n' :: rest => skipLines fuel rest
    | _ => rest

/-! ## Keys -/

/-- Whether a character may stand in a key without quotes. -/
def isBare (c : Char) : Bool := c.isAlphanum || c == '_' || c == '-'

/-- A single key. Strings of several lines are none. -/
def simpleKey? (cs : List Char) : Read String :=
  let bare := cs.takeWhile isBare
  if !bare.isEmpty then some (String.ofList bare, cs.drop bare.length)
  else
    match cs with
    | '"' :: rest => (basicString? 0 rest).map fun (text, rest) => (String.ofList text, rest)
    | '\'' :: rest => (literalString? rest).map fun (text, rest) => (String.ofList text, rest)
    | _ => none

/-- A key: single keys with dots between, `fuel` of them at most. -/
def key? : Nat → List Char → Read (List String × String)
  | 0, _ => none
  | fuel + 1, cs =>
    match simpleKey? (skipSpaces cs) with
    | none => none
    | some (k, rest) =>
      match skipSpaces rest with
      | '.' :: rest => (key? fuel rest).map fun ((path, last), rest) => ((k :: path, last), rest)
      | rest => some (([], k), rest)

/-- The number of levels to which arrays, tables in braces and keys may nest. -/
def depthLimit : Nat := 79

/-! ## Values -/

/-- Whether a character may stand in a number, a date or a truth value. -/
def isScalarPart (c : Char) : Bool :=
  c.isAlphanum || c == '_' || c == '+' || c == '-' || c == '.' || c == ':'

/-- The value that a text without brackets and quotes denotes. -/
def scalar? (cs : List Char) : Option Value :=
  if cs == "true".toList then some (.boolean true)
  else if cs == "false".toList then some (.boolean false)
  else if isDateTime cs then some .dateTime
  else
    match integer? cs with
    | some i => some (.integer i)
    | none => if isFloat cs then some .float else none

/-- A number, a date or a truth value. A space may stand between date and time. -/
def scalarAt? (cs : List Char) : Read Value :=
  let text := cs.takeWhile isScalarPart
  let rest := cs.drop text.length
  match rest with
  | ' ' :: after =>
    let time := after.takeWhile isScalarPart
    if isDate text && (time.head?.any Char.isDigit) then
      (scalar? (text ++ ' ' :: time)).map fun v => (v, after.drop time.length)
    else (scalar? text).map fun v => (v, rest)
  | _ => (scalar? text).map fun v => (v, rest)

/-- The items of an array, each read by `value`, up to the closing bracket. -/
def itemsWith? (value : List Char → Read Value) : Nat → List Char → Read (List Value)
  | 0, _ => none
  | fuel + 1, cs =>
    match skipLines (fuel + 1) cs with
    | ']' :: rest => some ([], rest)
    | start =>
      match value start with
      | none => none
      | some (v, rest) =>
        match skipLines (fuel + 1) rest with
        | ',' :: rest => (itemsWith? value fuel rest).map fun (vs, rest) => (v :: vs, rest)
        | ']' :: rest => some ([v], rest)
        | _ => none

/-- A key, an equals sign and a value read by `value`. -/
def pairWith? (value : List Char → Read Value) (cs : List Char) :
    Read ((List String × String) × Value) :=
  match key? depthLimit cs with
  | some (key, '=' :: rest) => (value (skipSpaces rest)).map fun (v, rest) => ((key, v), rest)
  | _ => none

/-- The pairs of a table in braces, up to the closing brace, added to entries. -/
def entriesWith? (value : List Char → Read Value) : Nat → Entries → List Char → Read Entries
  | 0, _, _ => none
  | fuel + 1, entries, cs =>
    match pairWith? value cs with
    | none => none
    | some (((path, key), v), rest) =>
      match entries.addDotted? path key v, skipSpaces rest with
      | some entries, ',' :: rest => entriesWith? value fuel entries rest
      | some entries, '}' :: rest => some (entries, rest)
      | _, _ => none

/-- A value; `depth` levels of nesting are left. -/
def value? : Nat → List Char → Read Value
  | depth, cs =>
    match cs with
    | '[' :: rest =>
      match depth with
      | 0 => none
      | depth + 1 =>
        (itemsWith? (value? depth) (rest.length + 1) rest).map fun (vs, rest) => (.array vs, rest)
    | '{' :: rest =>
      match depth with
      | 0 => none
      | depth + 1 =>
        match skipSpaces rest with
        | '}' :: rest => some (.table .inline [], rest)
        | rest =>
          (entriesWith? (value? depth) (rest.length + 1) [] rest).map fun (entries, rest) =>
            (.table .inline entries, rest)
    | _ =>
      match string? cs with
      | some (text, rest) => some (.string text, rest)
      | none => if cs.head? == some '"' || cs.head? == some '\'' then none else scalarAt? cs

/-! ## Documents -/

/-- A document as far as it was read: its entries, and the path of the table that the last header
opened. -/
structure Draft where
  entries : Entries
  path : List String

/-- Adds a pair to the table that is open. -/
def Draft.add? (d : Draft) (path : List String) (key : String) (v : Value) : Option Draft :=
  (Entries.descend false (fun _ inner => inner.addDotted? path key v) d.path .header d.entries).map
    fun entries => { d with entries }

/-- Reads one line into a draft: a header, a pair or nothing. -/
def line? (d : Draft) (cs : List Char) : Read Draft :=
  match skipSpaces cs with
  | '[' :: '[' :: rest =>
    match key? depthLimit rest with
    | some ((path, key), ']' :: ']' :: rest) =>
      match d.entries.openElement? path key, lineEnd? rest with
      | some entries, some rest => some (⟨entries, path ++ [key]⟩, rest)
      | _, _ => none
    | _ => none
  | '[' :: rest =>
    match key? depthLimit rest with
    | some ((path, key), ']' :: rest) =>
      match d.entries.openTable? path key, lineEnd? rest with
      | some entries, some rest => some (⟨entries, path ++ [key]⟩, rest)
      | _, _ => none
    | _ => none
  | start =>
    match lineEnd? start with
    | some rest => some (d, rest)
    | none =>
      match pairWith? (value? depthLimit) start with
      | none => none
      | some (((path, key), v), rest) =>
        match d.add? path key v, lineEnd? rest with
        | some d, some rest => some (d, rest)
        | _, _ => none

/-- Reads lines up to the end of the text. -/
def lines? : Nat → Draft → List Char → Option Entries
  | _, d, [] => some d.entries
  | 0, _, _ => none
  | fuel + 1, d, cs =>
    match line? d cs with
    | some (d, rest) => lines? fuel d rest
    | none => none

/-- Reads a text as a document. A byte order mark at the start is skipped. -/
def parse? (source : List Char) : Option Entries :=
  let cs := match source with
    | '\uFEFF' :: rest => rest
    | _ => source
  lines? cs.length ⟨[], []⟩ cs

end Toml

end ScriptOutline
