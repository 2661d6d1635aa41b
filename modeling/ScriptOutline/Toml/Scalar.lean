import ScriptOutline.Number.Reading
import ScriptOutline.Toml.Basic

/-!
# Strings, numbers and dates of TOML

Readers for the text of single values. The readers of strings take what follows the opening quotes.
-/

namespace ScriptOutline

namespace Toml

/-- Whether a character may stand in strings and comments as it is: no control character but the
tab. -/
def isPrintable (c : Char) : Bool := c == '\t' || (0x20 ≤ c.toNat && c.toNat != 0x7F)

/-- The character with a code point given in hexadecimal digits. -/
def scalarOf? (digits : List Char) : Option Char :=
  if digits.all fun c => (Double.digitValue? c).isSome then
    let n := Double.digitsValue 16 digits
    if n < 0xD800 ∨ (0xDFFF < n ∧ n ≤ 0x10FFFF) then some (Char.ofNat n) else none
  else none

/-- The character that an escape stands for, given what follows the backslash, and the length of
that. -/
def escape? : List Char → Option (Char × Nat)
  | 'b' :: _ => some ('\x08', 1)
  | 't' :: _ => some ('\t', 1)
  | 'n' :: _ => some ('\n', 1)
  | 'f' :: _ => some ('\x0c', 1)
  | 'r' :: _ => some ('\r', 1)
  | '"' :: _ => some ('"', 1)
  | '\\' :: _ => some ('\\', 1)
  | 'u' :: cs => if cs.length < 4 then none else (scalarOf? (cs.take 4)).map fun c => (c, 5)
  | 'U' :: cs => if cs.length < 8 then none else (scalarOf? (cs.take 8)).map fun c => (c, 9)
  | _ => none

/-- A string on one line. The first `skip` characters belong to an escape. -/
def basicString? : Nat → List Char → Option (List Char × List Char)
  | _, [] => none
  | skip + 1, _ :: cs => basicString? skip cs
  | 0, c :: cs =>
    if c == '"' then some ([], cs)
    else if c == '\\' then
      match escape? cs with
      | some (x, n) => (basicString? n cs).map fun (text, rest) => (x :: text, rest)
      | none => none
    else if isPrintable c then (basicString? 0 cs).map fun (text, rest) => (c :: text, rest)
    else none

/-- A string on one line in which nothing is escaped. -/
def literalString? (cs : List Char) : Option (List Char × List Char) :=
  let text := cs.takeWhile fun c => c != '\'' && isPrintable c
  match cs.drop text.length with
  | '\'' :: rest => some (text, rest)
  | _ => none

/-- Whether a character is a space or a tab. -/
def isSpace (c : Char) : Bool := c == ' ' || c == '\t'

/-- The length of the spaces, tabs and line breaks at the start of a text. -/
def blankLength : List Char → Nat
  | '\r' :: '\n' :: cs => blankLength cs + 2
  | c :: cs => if isSpace c || c == '\n' then blankLength cs + 1 else 0
  | [] => 0

/-- The length of the white space that a backslash at the end of a line removes, if it stands there:
up to the next character that is none, on whatever line. -/
def foldedLength? (cs : List Char) : Option Nat :=
  match cs.dropWhile isSpace with
  | '\n' :: _ => some (blankLength cs)
  | '\r' :: '\n' :: _ => some (blankLength cs)
  | _ => none

/-- A string of several lines in quotes of the given kind, in which escapes are recognised if
`escapes`. Up to two quotes may stand right before the closing ones. -/
def longString? (quote : Char) (escapes : Bool) :
    Nat → List Char → Option (List Char × List Char)
  | _, [] => none
  | skip + 1, _ :: cs => longString? quote escapes skip cs
  | 0, c :: cs =>
    let keep (x : Char) (skip : Nat) : Option (List Char × List Char) :=
      (longString? quote escapes skip cs).map fun (text, rest) => (x :: text, rest)
    if c == quote then
      let quotes := ((c :: cs).takeWhile (· == quote)).length
      if 3 ≤ quotes then
        let closing := min quotes 5
        some (List.replicate (closing - 3) quote, (c :: cs).drop closing)
      else keep c 0
    else if c == '\\' && escapes then
      match escape? cs with
      | some (x, n) => keep x n
      | none =>
        match foldedLength? cs with
        | some n => longString? quote escapes n cs
        | none => none
    else if c == '\r' then
      if cs.head? == some '\n' then keep '\n' 1 else none
    else if c == '\n' || isPrintable c then keep c 0
    else none

/-- Without the line break right after the opening quotes. -/
def afterOpening : List Char → List Char
  | '\n' :: cs => cs
  | '\r' :: '\n' :: cs => cs
  | cs => cs

/-- The string at the start of a text. -/
def string? : List Char → Option (String × List Char)
  | '"' :: '"' :: '"' :: cs => (longString? '"' true 0 (afterOpening cs)).map pack
  | '"' :: cs => (basicString? 0 cs).map pack
  | '\'' :: '\'' :: '\'' :: cs => (longString? '\'' false 0 (afterOpening cs)).map pack
  | '\'' :: cs => (literalString? cs).map pack
  | _ => none
where
  /-- A character list as text. -/
  pack (p : List Char × List Char) : String × List Char := (String.ofList p.1, p.2)

/-! ## Numbers -/

/-- The digits of a number, without single underscores between them. -/
def plainDigits? (isDigit : Char → Bool) : List Char → Option (List Char)
  | [] => none
  | [c] => if isDigit c then some [c] else none
  | c :: '_' :: cs => if isDigit c then (plainDigits? isDigit cs).map (c :: ·) else none
  | c :: cs => if isDigit c then (plainDigits? isDigit cs).map (c :: ·) else none

/-- A number without its sign, and that sign. -/
def signed : List Char → Bool × List Char
  | '+' :: cs => (false, cs)
  | '-' :: cs => (true, cs)
  | cs => (false, cs)

/-- A whole number in the decimal system without superfluous zeros. -/
def decimal? (cs : List Char) : Option Nat :=
  match plainDigits? Char.isDigit cs with
  | some ['0'] => some 0
  | some ('0' :: _) => none
  | some digits => some (Double.digitsValue 10 digits)
  | none => none

/-- A whole number in a radix. -/
def radix? (base : Nat) (cs : List Char) : Option Nat :=
  let isDigit (c : Char) : Bool := (Double.digitValue? c).any (· < base)
  (plainDigits? isDigit cs).map (Double.digitsValue base)

/-- The integer that a text denotes. It must fit 64 bits. -/
def integer? (cs : List Char) : Option Int :=
  let value : Option Int := match cs with
    | '0' :: 'x' :: rest => (radix? 16 rest).map Int.ofNat
    | '0' :: 'o' :: rest => (radix? 8 rest).map Int.ofNat
    | '0' :: 'b' :: rest => (radix? 2 rest).map Int.ofNat
    | _ =>
      let (negative, digits) := signed cs
      (decimal? digits).map fun n => if negative then -Int.ofNat n else Int.ofNat n
  value.filter fun i => -(twoPow 63 : Int) ≤ i && i < twoPow 63

/-- Whether a text is an exponent without its mark. -/
def isExponent (cs : List Char) : Bool := (plainDigits? Char.isDigit (signed cs).2).isSome

/-- Whether a text is a floating-point number. One that is too large must be negative. -/
def isFloat (cs : List Char) : Bool :=
  let (isNegative, body) := signed cs
  let isMark (c : Char) : Bool := c == 'e' || c == 'E'
  let mantissa := body.takeWhile fun c => !isMark c
  let exponent := body.drop mantissa.length
  let whole := mantissa.takeWhile (· != '.')
  let fraction := mantissa.drop whole.length
  body == "inf".toList || body == "nan".toList ||
    ((decimal? whole).isSome && !(fraction.isEmpty && exponent.isEmpty) &&
      (fraction.isEmpty || (plainDigits? Char.isDigit (fraction.drop 1)).isSome) &&
      (exponent.isEmpty || isExponent (exponent.drop 1)) &&
      ((Double.parse? (body.filter (· != '_'))).any fun
        | .finite .. => true
        | _ => isNegative))

/-! ## Dates and times -/

/-- Whether two digits form a number in a range. -/
def inRange (low high : Nat) (a b : Char) : Bool :=
  a.isDigit && b.isDigit &&
    (let n := Double.digitsValue 10 [a, b]
    low ≤ n && n ≤ high)

/-- The number of days of a month. -/
def daysOf (year month : Nat) : Nat :=
  if month == 2 then
    if year % 4 == 0 && (year % 100 != 0 || year % 400 == 0) then 29 else 28
  else if [4, 6, 9, 11].contains month then 30
  else 31

/-- Whether a text is a date. -/
def isDate : List Char → Bool
  | [y, e, a, r, '-', m, n, '-', d, f] =>
    [y, e, a, r].all Char.isDigit && inRange 1 12 m n &&
      inRange 1 (daysOf (Double.digitsValue 10 [y, e, a, r]) (Double.digitsValue 10 [m, n])) d f
  | _ => false

/-- Whether a text is a time of day, possibly with a fraction of a second. -/
def isTime : List Char → Bool
  | h :: i :: ':' :: m :: n :: ':' :: s :: t :: rest =>
    inRange 0 23 h i && inRange 0 59 m n && inRange 0 60 s t &&
      match rest with
      | [] => true
      | '.' :: digits => !digits.isEmpty && digits.all Char.isDigit
      | _ => false
  | _ => false

/-- Whether a text is a difference from universal time. -/
def isOffset : List Char → Bool
  | [c] => c == 'Z' || c == 'z'
  | [s, h, i, ':', m, n] => (s == '+' || s == '-') && inRange 0 23 h i && inRange 0 59 m n
  | _ => false

/-- Whether a text is a time of day, possibly with a difference from universal time. -/
def isTimeWithOffset (cs : List Char) : Bool :=
  let time := cs.takeWhile fun c => c.isDigit || c == ':' || c == '.'
  isTime time && (time.length == cs.length || isOffset (cs.drop time.length))

/-- Whether a text is a date, a time or both. -/
def isDateTime (cs : List Char) : Bool :=
  isDate cs || isTime cs ||
    (isDate (cs.take 10) &&
      match cs.drop 10 with
      | c :: time => (c == 'T' || c == 't' || c == ' ') && isTimeWithOffset time
      | [] => false)

end Toml

end ScriptOutline
