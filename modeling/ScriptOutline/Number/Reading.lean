import ScriptOutline.Number.Double

/-!
# Reading decimals

`Double.ofDecimal` gives the double nearest to `digits · 10^exponent`. Exponents far outside the
range are settled by the number of digits alone, so no huge power is ever computed.
`Double.parse?` reads the usual decimal spellings, a sign and the names of the special values.
-/

namespace ScriptOutline

namespace Double

/-- The double nearest to `± n · 10^exponent`. -/
def ofDecimal (negative : Bool) (n : Nat) (exponent : Int) : Double :=
  if n = 0 then .finite negative .zero
  else
    let length : Int := (Nat.toDigits 10 n).length
    if 310 < length + exponent then .infinite negative
    else if length + exponent < -330 then .finite negative .zero
    else if exponent < 0 then ofRatio negative n (tenPow (-exponent).toNat)
    else ofRatio negative (n * tenPow exponent.toNat) 1

/-- The value of a digit in a base up to 16. -/
def digitValue? (c : Char) : Option Nat :=
  if '0' ≤ c ∧ c ≤ '9' then some (c.toNat - '0'.toNat)
  else if 'a' ≤ c ∧ c ≤ 'f' then some (c.toNat - 'a'.toNat + 10)
  else if 'A' ≤ c ∧ c ≤ 'F' then some (c.toNat - 'A'.toNat + 10)
  else none

/-- The number that the digits denote in a base; characters that are no digits count as zero. -/
def digitsValue (base : Nat) (cs : List Char) : Nat :=
  cs.foldl (fun n c => n * base + (digitValue? c).getD 0) 0

/-- Lower case of the ASCII letters. -/
def lowerAscii (cs : List Char) : List Char := cs.map Char.toLower

/-- An exponent: the letter, an optional sign and at least one digit, up to the end. -/
def parseExponent? : List Char → Option Int
  | [] => some 0
  | c :: rest =>
    if c = 'e' ∨ c = 'E' then
      let (negative, ds) :=
        match rest with
        | '-' :: ds => (true, ds)
        | '+' :: ds => (false, ds)
        | ds => (false, ds)
      if ds.isEmpty || !ds.all Char.isDigit then none
      else
        let e : Int := digitsValue 10 ds
        some (if negative then -e else e)
    else
      none

/-- An unsigned decimal: digits with at most one point among or around them, then an exponent. -/
def parseUnsigned? (negative : Bool) (cs : List Char) : Option Double :=
  let whole := cs.takeWhile Char.isDigit
  let rest := cs.dropWhile Char.isDigit
  let (fraction, rest) :=
    match rest with
    | '.' :: r => (r.takeWhile Char.isDigit, r.dropWhile Char.isDigit)
    | r => ([], r)
  if whole.isEmpty && fraction.isEmpty then none
  else
    (parseExponent? rest).map fun e =>
      ofDecimal negative (digitsValue 10 (whole ++ fraction)) (e - (fraction.length : Int))

/-- Reads a decimal number, or `inf`, `infinity` or `nan` in any case, after an optional sign. -/
def parse? (cs : List Char) : Option Double :=
  let (negative, body) :=
    match cs with
    | '-' :: r => (true, r)
    | '+' :: r => (false, r)
    | r => (false, r)
  let word := lowerAscii body
  if word = "inf".toList ∨ word = "infinity".toList then some (.infinite negative)
  else if word = "nan".toList then some .nan
  else parseUnsigned? negative body

end Double

end ScriptOutline
