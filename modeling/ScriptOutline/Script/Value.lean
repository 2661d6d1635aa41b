import ScriptOutline.Number.Reading
import ScriptOutline.Syntax.Literal

/-!
# Values of literals

The number that a number literal denotes, and the characters that an escape sequence stands for.
-/

namespace ScriptOutline

namespace Script

/-- The number of a literal in a radix; it must fit 64 bits. -/
def radixValue? (base : Nat) (digits : List Char) : Option Double :=
  let n := Double.digitsValue base digits
  if digits.isEmpty || twoPow 64 ≤ n then none else some (.ofNat n)

/-- Whether a lower-case literal is a zero followed by octal digits only, and by at least one. -/
def isLegacyOctal : List Char → Bool
  | '0' :: d :: rest => (d :: rest).all fun c => '0' ≤ c && c ≤ '7'
  | _ => false

/-- The number of a literal without separators, big integer mark and capital letters. -/
def plainNumber? (digits : List Char) : Option Double :=
  match digits with
  | '0' :: 'x' :: rest => radixValue? 16 rest
  | '0' :: 'o' :: rest => radixValue? 8 rest
  | '0' :: 'b' :: rest => radixValue? 2 rest
  | _ => if isLegacyOctal digits then radixValue? 8 (digits.drop 1) else Double.parse? digits

/-- Without a big integer mark at the end. -/
def withoutMark (cs : List Char) : List Char :=
  match cs.reverse with
  | 'n' :: rest => rest.reverse
  | _ => cs

/-- The value of a number literal. One that does not fit is kept as its text. -/
def numberValue (source : String) : Literal :=
  let digits := withoutMark (source.toList.filter (· != '_'))
  match plainNumber? (Double.lowerAscii digits) with
  | some d => .number d
  | none => .string source

/-- The character with a code point, unless that is a surrogate or out of range. -/
def scalar? (n : Nat) : Option Char :=
  if n < 0xD800 ∨ (0xDFFF < n ∧ n ≤ 0x10FFFF) then some (Char.ofNat n) else none

/-- The character that hexadecimal digits denote. -/
def hexScalar? (digits : List Char) : Option Char :=
  if digits.isEmpty || !digits.all (fun c => (Double.digitValue? c).isSome) then none
  else scalar? (Double.digitsValue 16 digits)

/-- The hexadecimal digits of an escape, without the braces around them. -/
def withoutBraces (cs : List Char) : List Char :=
  ((cs.dropWhile (· == '{')).reverse.dropWhile (· == '}')).reverse

/-- The characters that an escape sequence stands for, given what follows its backslash. What has no
meaning of its own stands for itself, and a line break stands for nothing. -/
def unescaped (body : List Char) : List Char :=
  match body with
  | [] => []
  | 'n' :: _ => ['\n']
  | 't' :: _ => ['\t']
  | 'r' :: _ => ['\r']
  | 'b' :: _ => ['\x08']
  | 'f' :: _ => ['\x0c']
  | 'v' :: _ => ['\x0b']
  | ['0'] => ['\x00']
  | 'x' :: rest => ((hexScalar? rest).map fun c => [c]).getD body
  | 'u' :: rest => ((hexScalar? (withoutBraces rest)).map fun c => [c]).getD body
  | '\n' :: _ => []
  | '\r' :: _ => []
  | '\u2028' :: _ => []
  | '\u2029' :: _ => []
  | _ => body

end Script

end ScriptOutline
