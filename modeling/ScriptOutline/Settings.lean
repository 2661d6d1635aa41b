import ScriptOutline.Analysis
import ScriptOutline.Table.Format
import ScriptOutline.Toml.Reader

/-!
# Settings

What a configuration file can set. The file has three tables, `analysis`, `output` and `server`, and
every key has a default. Unknown keys are refused. An array may stand for a table: its items are the
fields in order, those that are missing keep their defaults, and those beyond the last field are
ignored.
-/

namespace ScriptOutline

/-- The settings of the program. -/
structure Settings where
  nestingLimit : Nat := defaultNestingLimit
  dialect : Dialect := .script
  format : Format := .text
  /-- The port that the server listens on. -/
  port : Nat := 7878
  /-- The length in bytes from which on the server refuses a request line. -/
  requestLimit : Nat := 8 * 1024 * 1024

namespace Settings

open Toml (Value Entries)

/-- The values of the named fields in a table, or in an array that stands for one. -/
def fields? (names : List String) : Value → Option (List (Option Value))
  | .table _ entries =>
    if entries.all fun e => names.contains e.1 then some (names.map (Toml.Entries.get? entries)) else none
  | .array items => some (names.mapIdx fun i _ => items[i]?)
  | .tables elements => some (names.mapIdx fun i _ => elements[i]?.map (.table .header))
  | _ => none

/-- A whole number below a bound. -/
def number? (bound : Nat) : Value → Option Nat
  | .integer i => if 0 ≤ i ∧ i < bound then some i.toNat else none
  | _ => none

/-- Whether a value is an empty table or array. -/
def isEmpty : Value → Bool
  | .table _ [] => true
  | .array [] => true
  | _ => false

/-- One of several named choices: its name, or a table with the name as its only key and nothing
under it. -/
def choice? {α : Type} (named : String → Option α) : Value → Option α
  | .string name => named name
  | .table _ [(name, v)] => if isEmpty v then named name else none
  | _ => none

/-- A field's value, or its default if the field is missing. -/
def fieldOr {α : Type} (read : Value → Option α) (default : α) : Option Value → Option α
  | none => some default
  | some v => read v

/-- Takes the settings of the table `analysis`. -/
def withAnalysis (s : Settings) (v : Value) : Option Settings := do
  match ← fields? ["max_nesting_depth", "dialect"] v with
  | [limit, dialect] =>
    return { s with
      nestingLimit := ← fieldOr (number? (twoPow 64)) s.nestingLimit limit
      dialect := ← fieldOr (choice? Dialect.ofKeyword?) s.dialect dialect }
  | _ => none

/-- Takes the settings of the table `output`. -/
def withOutput (s : Settings) (v : Value) : Option Settings := do
  match ← fields? ["format"] v with
  | [format] => return { s with format := ← fieldOr (choice? Format.ofKeyword?) s.format format }
  | _ => none

/-- Takes the settings of the table `server`. -/
def withServer (s : Settings) (v : Value) : Option Settings := do
  match ← fields? ["port", "max_request_bytes"] v with
  | [port, limit] =>
    return { s with
      port := ← fieldOr (number? (twoPow 16)) s.port port
      requestLimit := ← fieldOr (number? (twoPow 64)) s.requestLimit limit }
  | _ => none

/-- The settings of a document. -/
def ofEntries? (entries : Entries) : Option Settings := do
  match ← fields? ["analysis", "output", "server"] (.table .header entries) with
  | [analysis, output, server] =>
    let s ← fieldOr (withAnalysis {}) {} analysis
    let s ← fieldOr (withOutput s) s output
    fieldOr (withServer s) s server
  | _ => none

/-- Reads the text of a configuration file. -/
def ofToml? (source : List Char) : Option Settings := (Toml.parse? source).bind ofEntries?

/-- What is said about a text that is no configuration. -/
def invalidMessage : String := "Invalid scriptscope configuration"

end Settings

end ScriptOutline
