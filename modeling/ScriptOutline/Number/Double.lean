import ScriptOutline.Number.Power

/-!
# Binary doubles

The numbers of a script are IEEE 754 binary64 values. A finite one is kept in the exact form
`± mantissa · 2^shift / 2^1074`, so every operation on it is arithmetic on natural numbers and a
statement about it needs no floating-point axiom. The canonical mantissa makes equality of
magnitudes equality of values; only the two zeros and the NaN need care (`Double.sameValue`).

Main definitions: `Magnitude.ofRatio?` rounds a fraction to the nearest magnitude, ties to the even
mantissa, and is the only place where rounding happens; `Double.ofBits` decodes an interchange word.
-/

namespace ScriptOutline

/-- The magnitude of a finite double: `mantissa · 2^shift / 2^1074`. -/
structure Magnitude where
  /-- The significant bits. -/
  mantissa : Nat
  /-- The power of two, counted from the smallest one there is. -/
  shift : Nat
  /-- There are 53 significant bits. -/
  mantissa_lt : mantissa < twoPow 53
  /-- The exponent range ends here. -/
  shift_le : shift ≤ 2045
  /-- The leading bit is set, unless the value is subnormal. -/
  normal : shift = 0 ∨ twoPow 52 ≤ mantissa
  deriving DecidableEq

namespace Magnitude

/-- The common denominator of all magnitudes. -/
def denominator : Nat := twoPow 1074

/-- The numerator of the value over `denominator`. -/
def numerator (m : Magnitude) : Nat := m.mantissa * twoPow m.shift

/-- The magnitude of zero. -/
def zero : Magnitude := ⟨0, 0, by decide, by decide, .inl rfl⟩

/-- The magnitude with these parts, if they are canonical. -/
def ofParts? (mantissa shift : Nat) : Option Magnitude :=
  if h : mantissa < twoPow 53 ∧ shift ≤ 2045 ∧ (shift = 0 ∨ twoPow 52 ≤ mantissa) then
    some ⟨mantissa, shift, h.1, h.2.1, h.2.2⟩
  else
    none

/-- `num / den` rounded to an integer, a half going to the even neighbour. -/
def roundHalfEven (num den : Nat) : Nat :=
  let q := num / den
  let twice := 2 * (num % den)
  if twice < den then q else if den < twice then q + 1 else q + q % 2

/-- The magnitude nearest to `num / den`, ties to the even mantissa; `none` if that is beyond the
largest one. -/
def ofRatio? (num den : Nat) : Option Magnitude :=
  let scaled := num * denominator
  let bits := Nat.log2 (scaled / den) + 1
  let shift := bits - 53
  let mantissa := roundHalfEven scaled (den * twoPow shift)
  if mantissa = twoPow 53 then ofParts? (twoPow 52) (shift + 1) else ofParts? mantissa shift

end Magnitude

/-- A double: finite with a sign, infinite with a sign, or not a number. -/
inductive Double where
  | finite (negative : Bool) (size : Magnitude)
  | infinite (negative : Bool)
  | nan
  deriving DecidableEq

namespace Double

/-- Positive zero. -/
def zero : Double := .finite false .zero

/-- The double with a sign and a magnitude; infinite if there is none. -/
def ofSize? (negative : Bool) : Option Magnitude → Double
  | some size => .finite negative size
  | none => .infinite negative

/-- The double nearest to `± num / den`; infinite if it is out of range. -/
def ofRatio (negative : Bool) (num den : Nat) : Double :=
  ofSize? negative (Magnitude.ofRatio? num den)

/-- The double nearest to a natural number. -/
def ofNat (n : Nat) : Double := ofRatio false n 1

/-- The double nearest to an integer. -/
def ofInt (i : Int) : Double := ofRatio (decide (i < 0)) i.natAbs 1

/-- Change of sign. -/
def neg : Double → Double
  | .finite s m => .finite (!s) m
  | .infinite s => .infinite (!s)
  | .nan => .nan

/-- Numeric equality: the two zeros are equal, a NaN equals nothing. -/
def sameValue : Double → Double → Bool
  | .finite s m, .finite t n => m == n && (s == t || m.mantissa == 0)
  | .infinite s, .infinite t => s == t
  | _, _ => false

/-- Whether the value is an ordinary number. -/
def isFinite : Double → Bool
  | .finite _ _ => true
  | _ => false

/-- The quotient of two finite doubles, correctly rounded; used for positive divisors only. -/
def div : Double → Double → Double
  | .finite s m, .finite t n => ofRatio (s != t) m.numerator n.numerator
  | _, _ => .nan

/-- The product of two finite doubles, correctly rounded. -/
def mul : Double → Double → Double
  | .finite s m, .finite t n =>
    ofRatio (s != t) (m.numerator * n.numerator) (Magnitude.denominator * Magnitude.denominator)
  | _, _ => .nan

/-- The double with the given 64-bit interchange word: one sign bit, eleven exponent bits and 52
fraction bits. -/
def ofBits (word : Nat) : Double :=
  let negative := word / twoPow 63 % 2 == 1
  let exponent := word / twoPow 52 % twoPow 11
  let fraction := word % twoPow 52
  if exponent = 2047 then
    if fraction = 0 then .infinite negative else .nan
  else
    let parts :=
      if exponent = 0 then Magnitude.ofParts? fraction 0
      else Magnitude.ofParts? (twoPow 52 + fraction) (exponent - 1)
    match parts with
    | some size => .finite negative size
    | none => .nan

/-- The bound below which whole numbers are written as integers. -/
def wholeBound : Nat := 9000000000000000

/-- The value as an integer, if it is whole and its size is below `wholeBound`. Both zeros give 0. -/
def toInt? : Double → Option Int
  | .finite negative size =>
    let whole := size.numerator / Magnitude.denominator
    if size.numerator % Magnitude.denominator = 0 ∧ whole < wholeBound then
      some (if negative then -(whole : Int) else whole)
    else
      none
  | _ => none

end Double

end ScriptOutline
