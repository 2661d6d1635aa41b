import ScriptOutline.Json.Basic
import ScriptOutline.Number.Layout

/-!
# JSON text

A value is written on one line without blanks (`Json.compact`) or indented by two spaces a level
(`Json.pretty`). Strings escape the quote, the backslash and the control characters below a space,
so compact text never holds a line break.
-/

namespace ScriptOutline

/-- A hexadecimal digit, in lower case. -/
def hexDigit (n : Nat) : Char :=
  if n < 10 then Char.ofNat ('0'.toNat + n) else Char.ofNat ('a'.toNat + (n - 10))

namespace Json

/-- One character of a string. -/
def escapeChar (c : Char) : List Char :=
  match c with
  | '"' => ['\\', '"']
  | '\\' => ['\\', '\\']
  | '\n' => ['\\', 'n']
  | '\r' => ['\\', 'r']
  | '\t' => ['\\', 't']
  | '\x08' => ['\\', 'b']
  | '\x0c' => ['\\', 'f']
  | c =>
    if c.toNat < 32 then
      ['\\', 'u', '0', '0', hexDigit (c.toNat / 16), hexDigit (c.toNat % 16)]
    else
      [c]

/-- A string in quotes. -/
def quoted (s : String) : List Char :=
  '"' :: (s.toList.flatMap escapeChar ++ ['"'])

end Json

/-- The text of a number. -/
def JsonNumber.text : JsonNumber → List Char
  | .integer i => integerText i
  | .float d => d.floatJson

namespace Json

/-- What stands between the parts of arrays and objects. -/
structure Layout where
  /-- Before an item or a member at a level, and before the bracket that closes the level above. -/
  gap : Nat → List Char
  /-- After the colon of a member. -/
  space : List Char

/-- Nothing between the parts. -/
def Layout.tight : Layout := ⟨fun _ => [], []⟩

/-- A line for each part, indented by two spaces a level. -/
def Layout.indented : Layout := ⟨fun level => '\n' :: List.replicate (2 * level) ' ', [' ']⟩

mutual

/-- The value in a layout, at a level. -/
def write (layout : Layout) (level : Nat) : Json → List Char
  | .null => "null".toList
  | .boolean true => "true".toList
  | .boolean false => "false".toList
  | .number n => n.text
  | .string s => quoted s
  | .array [] => "[]".toList
  | .array (v :: rest) =>
    '[' :: (layout.gap (level + 1) ++ (v.write layout (level + 1) ++ writeItems layout level rest))
  | .object [] => ['{', '}']
  | .object ((k, v) :: rest) =>
    '{' :: (layout.gap (level + 1) ++
      (quoted k ++ ':' :: (layout.space ++
        (v.write layout (level + 1) ++ writeMembers layout level rest))))

/-- The items after the first one of an array at a level, and the closing bracket. -/
def writeItems (layout : Layout) (level : Nat) : List Json → List Char
  | [] => layout.gap level ++ [']']
  | v :: rest =>
    ',' :: (layout.gap (level + 1) ++ (v.write layout (level + 1) ++ writeItems layout level rest))

/-- The members after the first one of an object at a level, and the closing brace. -/
def writeMembers (layout : Layout) (level : Nat) : List (String × Json) → List Char
  | [] => layout.gap level ++ ['}']
  | (k, v) :: rest =>
    ',' :: (layout.gap (level + 1) ++
      (quoted k ++ ':' :: (layout.space ++
        (v.write layout (level + 1) ++ writeMembers layout level rest))))

end

/-- The value on one line. -/
def compact (v : Json) : List Char := v.write .tight 0

/-- The value over several lines. -/
def pretty (v : Json) : List Char := v.write .indented 0

/-- The compact text as a string. -/
def text (v : Json) : String := String.ofList v.compact

end Json

end ScriptOutline
