import ScriptOutline.Number.Shortest

/-!
# Number text

Two layouts of the same digits. In a table cell a number is written as a script would print it:
positional between `1e-6` and `1e21`, otherwise with an exponent. In JSON it is written with a point
or an exponent, so that it stays a number with a fraction. Whole numbers below `Double.wholeBound`
are plain integers in both.
-/

namespace ScriptOutline

/-- An integer in decimal. -/
def integerText (i : Int) : List Char :=
  if i < 0 then '-' :: Nat.toDigits 10 i.natAbs else Nat.toDigits 10 i.natAbs

namespace Scientific

/-- The exponent with its sign. -/
def exponentText (e : Int) : List Char :=
  (if 0 ≤ e then '+' else '-') :: Nat.toDigits 10 e.natAbs

/-- First digit, fraction if any, and exponent. -/
def withExponent (s : Scientific) : List Char :=
  s.digits.take 1 ++
    (if s.digits.length ≤ 1 then [] else '.' :: s.digits.drop 1) ++
    'e' :: exponentText s.exponent

/-- The text of a cell. With `point` digits before the decimal point: whole numbers up to 21 digits
are filled with zeros, up to 21 digits may stand before the point, and up to five zeros after it. -/
def display (s : Scientific) : List Char :=
  let count : Int := s.digits.length
  let point := s.exponent + 1
  if count ≤ point ∧ point ≤ 21 then
    s.digits ++ List.replicate (point - count).toNat '0'
  else if 0 < point ∧ point ≤ 21 then
    s.digits.take point.toNat ++ '.' :: s.digits.drop point.toNat
  else if -6 < point ∧ point ≤ 0 then
    '0' :: '.' :: (List.replicate (-point).toNat '0' ++ s.digits)
  else
    s.withExponent

/-- The text in JSON: positional with a point if the exponent is between -5 and 15. -/
def json (s : Scientific) : List Char :=
  let count : Int := s.digits.length
  let point := s.exponent + 1
  if s.exponent < -5 ∨ 15 < s.exponent then
    s.withExponent
  else if point ≤ 0 then
    '0' :: '.' :: (List.replicate (-point).toNat '0' ++ s.digits)
  else if count ≤ point then
    s.digits ++ List.replicate (point - count).toNat '0' ++ ['.', '0']
  else
    s.digits.take point.toNat ++ '.' :: s.digits.drop point.toNat

end Scientific

namespace Double

/-- A sign in front of the text of a negative number. -/
def signed (negative : Bool) (text : List Char) : List Char :=
  if negative then '-' :: text else text

/-- The number as a table cell shows it. -/
def display (d : Double) : List Char :=
  match d.toInt? with
  | some i => integerText i
  | none =>
    match d with
    | .finite negative size => signed negative (Scientific.shortest .up size).display
    | .infinite negative => signed negative "Infinity".toList
    | .nan => "NaN".toList

/-- The number as a JSON float. There is no JSON text for what is not finite, so that is `null`. -/
def floatJson : Double → List Char
  | .finite negative size =>
    signed negative
      (if size.mantissa = 0 then "0.0".toList else (Scientific.shortest .even size).json)
  | _ => "null".toList

end Double

end ScriptOutline
