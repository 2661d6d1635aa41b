import ScriptOutline.Json.Writer
import ScriptOutline.Text.Quoted

/-!
# Shapes of JSON values

What is said about a JSON value that is well formed but not of the shape that was asked for.
-/

namespace ScriptOutline

/-- How a JSON value is referred to. -/
def Json.phrase : Json → String
  | .null => "null"
  | .boolean b => "boolean `" ++ (if b then "true" else "false") ++ "`"
  | .number (.integer i) => "integer `" ++ toString i ++ "`"
  | .number (.float d) => "floating point `" ++ (Json.number (.float d)).text ++ "`"
  | .string s => "string " ++ Quoted.write s
  | .array _ => "sequence"
  | .object _ => "map"

/-- What is wrong with the shape of a value. -/
inductive ShapeFault where
  | wrongKind (found : Json) (expected : String)
  | wrongLength (length : Nat) (expected : String)
  | missing (field : String)
  | duplicate (field : String)
  | unknownChoice (name : String) (choices : List String)
  /-- An object that should have one member. -/
  | notSingle

/-- Names in backquotes with commas between. -/
def nameList : List String → String
  | [] => ""
  | [name] => "`" ++ name ++ "`"
  | name :: rest => "`" ++ name ++ "`, " ++ nameList rest

/-- The wording of a fault. -/
def ShapeFault.message : ShapeFault → String
  | .wrongKind found expected => "invalid type: " ++ found.phrase ++ ", expected " ++ expected
  | .wrongLength length expected =>
    "invalid length " ++ toString length ++ ", expected " ++ expected
  | .missing field => "missing field `" ++ field ++ "`"
  | .duplicate field => "duplicate field `" ++ field ++ "`"
  | .unknownChoice name choices =>
    "unknown variant `" ++ name ++ "`, expected one of " ++ nameList choices
  | .notSingle => "invalid value: map, expected map with a single key"

end ScriptOutline
