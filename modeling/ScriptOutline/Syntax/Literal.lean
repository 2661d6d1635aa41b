import ScriptOutline.Number.Layout
import ScriptOutline.Json.Basic

/-!
# Literals

The value of a literal in a script: how it is shown in a cell, and what it is in JSON. JSON has no
text for a number that is not finite, and none for a regular expression, which is kept as its source
text.
-/

namespace ScriptOutline

/-- The value of a literal. -/
inductive Literal where
  | number (value : Double)
  | string (value : String)
  | boolean (value : Bool)
  | null
  /-- A regular expression in its source form, such as `/ab+c/gi`. -/
  | regexp (source : String)
  deriving DecidableEq

namespace Literal

/-- The text of the literal in a cell. -/
def shown : Literal → String
  | .number d => String.ofList d.display
  | .string s => s
  | .boolean true => "true"
  | .boolean false => "false"
  | .null => "null"
  | .regexp source => source

/-- The literal in JSON. -/
def toJson : Literal → Json
  | .number d =>
    match d.toInt? with
    | some i => .number (.integer i)
    | none => if d.isFinite then .number (.float d) else .null
  | .string s => .string s
  | .boolean b => .boolean b
  | .null => .null
  | .regexp source => .string source

/-- Equality of values: numbers are compared as numbers. -/
def sameValue : Literal → Literal → Bool
  | .number a, .number b => a.sameValue b
  | a, b => a == b

/-- The pattern and the flags of `/pattern/flags`: what stands between the first and the last
slash, and what stands after the last one. -/
def regexpParts? (source : String) : Option (String × String) :=
  match source.toList with
  | '/' :: body =>
    let flags := body.reverse.takeWhile (· != '/')
    match body.reverse.dropWhile (· != '/') with
    | _ :: pattern => some (String.ofList pattern.reverse, String.ofList flags.reverse)
    | [] => none
  | _ => none

end Literal

end ScriptOutline
