import ScriptOutline.Text.CombiningMark
import ScriptOutline.Text.Unprintable

/-!
# Quoted text

A text in double quotes in which every character can be told: quotes, backslashes and characters
that do not show are escaped.
-/

namespace ScriptOutline

namespace Quoted

/-- Whether a character shows on its own. -/
def isShown (c : Char) : Bool :=
  let n := c.toNat
  if n < 0x80 then 0x20 ≤ n && n != 0x7F
  else !Unprintable.contains n && !CombiningMark.contains n

/-- The escape of a character, or the character itself. -/
def escape (c : Char) : List Char :=
  if c == '"' || c == '\\' then ['\\', c]
  else if c == '\x00' then ['\\', '0']
  else if c == '\t' then ['\\', 't']
  else if c == '\n' then ['\\', 'n']
  else if c == '\r' then ['\\', 'r']
  else if isShown c then [c]
  else "\\u".toList ++ '{' :: Nat.toDigits 16 c.toNat ++ ['}']

/-- A text in quotes. -/
def write (text : String) : String :=
  String.ofList ('"' :: text.toList.flatMap escape ++ ['"'])

end Quoted

end ScriptOutline
