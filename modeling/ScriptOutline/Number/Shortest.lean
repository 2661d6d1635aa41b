import ScriptOutline.Number.Double

/-!
# Shortest decimal digits

The decimal form of a magnitude is the shortest digit string whose value rounds back to it, and
among those the nearest one. The reals that round to `m · 2^s` form an interval around it, closed
if `m` is even; the search tries one digit, two digits and so on, and tests the two multiples of
the grid unit that enclose the value. If any multiple lies in the interval, one of these two does.
-/

namespace ScriptOutline

/-- A positive decimal `d₁.d₂…dₖ · 10^exponent`. -/
structure Scientific where
  /-- The digits; the first and the last one are not zero. -/
  digits : List Char
  /-- The power of ten of the first digit. -/
  exponent : Int
  deriving DecidableEq

/-- Which of two equally near candidates is taken. -/
inductive Tie where
  /-- The larger one. -/
  | up
  /-- The one whose last digit is even. -/
  | even
  deriving DecidableEq

namespace Scientific

/-- Ten to the power `e`, as a fraction. -/
def unitRatio (e : Int) : Nat × Nat :=
  if e < 0 then (1, tenPow (-e).toNat) else (tenPow e.toNat, 1)

/-- `a / b ≤ c / d` for positive denominators. -/
def ratioLe (a b c d : Nat) : Bool := a * d ≤ c * b

/-- `a / b < c / d` for positive denominators. -/
def ratioLt (a b c d : Nat) : Bool := a * d < c * b

/-- Raises the exponent `e` while ten to the power `e + 1` is at most `num / den`. -/
def raiseExponent (num den : Nat) : Nat → Int → Int
  | 0, e => e
  | fuel + 1, e =>
    let (p, q) := unitRatio (e + 1)
    if ratioLe p q num den then raiseExponent num den fuel (e + 1) else e

/-- The largest `e` with `10^e ≤ num / den`. The logarithm gives a start at most three too low. -/
def leadingExponent (num den : Nat) : Int :=
  let bits : Int := (Nat.log2 num : Int) - (Nat.log2 den : Int)
  raiseExponent num den 5 (Int.fdiv ((bits - 1) * 30103) 100000 - 1)

/-- The interval of reals that round to a magnitude, over the denominator `4 · 2^1074`, and whether
its ends belong to it. -/
def interval (m : Magnitude) : Nat × Nat × Bool :=
  let below := if m.mantissa = twoPow 52 ∧ 0 < m.shift then 1 else 2
  ((4 * m.mantissa - below) * twoPow m.shift, (4 * m.mantissa + 2) * twoPow m.shift,
    m.mantissa % 2 == 0)

/-- Whether `c · 10^unit` lies in the rounding interval of `m`. -/
def reads (m : Magnitude) (c : Nat) (unit : Int) : Bool :=
  let (low, high, closed) := interval m
  let den := 4 * Magnitude.denominator
  let (p, q) := unitRatio unit
  if closed then ratioLe low den (c * p) q && ratioLe (c * p) q high den
  else ratioLt low den (c * p) q && ratioLt (c * p) q high den

/-- The grid multiple chosen for the unit `10^unit`, if one of the two around the value reads
back. -/
def onGrid? (tie : Tie) (m : Magnitude) (unit : Int) : Option Nat :=
  let num := m.numerator
  let den := Magnitude.denominator
  let (p, q) := unitRatio unit
  let below := num * q / (den * p)
  let above := below + 1
  match reads m below unit && 0 < below, reads m above unit with
  | false, false => none
  | true, false => some below
  | false, true => some above
  | true, true =>
    let twice := 2 * (num * q % (den * p))
    if twice < den * p then some below
    else if den * p < twice then some above
    else match tie with
      | .up => some above
      | .even => some (if below % 2 = 0 then below else above)

/-- Tries ever finer grids, from `10^unit` on. -/
def search (tie : Tie) (m : Magnitude) : Nat → Int → Nat × Int
  | 0, unit => (m.numerator / Magnitude.denominator, unit)
  | fuel + 1, unit =>
    match onGrid? tie m unit with
    | some c => (c, unit)
    | none => search tie m fuel (unit - 1)

/-- The digits of `c` without trailing zeros. -/
def significant (c : Nat) : List Char :=
  ((Nat.toDigits 10 c).reverse.dropWhile (· == '0')).reverse

/-- The decimal `c · 10^unit`, given `c` and the unit. -/
def ofGrid (multiple : Nat × Int) : Scientific where
  digits := significant multiple.1
  exponent := multiple.2 + ((Nat.toDigits 10 multiple.1).length : Int) - 1

/-- The shortest decimal that reads back as the positive magnitude `m`. -/
def shortest (tie : Tie) (m : Magnitude) : Scientific :=
  ofGrid (search tie m 18 (leadingExponent m.numerator Magnitude.denominator))

end Scientific

end ScriptOutline
