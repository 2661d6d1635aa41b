import Mathlib.Algebra.Order.Field.Rat
import Mathlib.Algebra.Order.Ring.Int
import Mathlib.Tactic.Common
import ScriptOutline.Number.Layout

/-!
# Decimal numerals

What a number text denotes, without rounding: a numeral is a sign, digits before and behind a point
and maybe a power of ten, and its value is a fraction (`Numeral.value`). `Numeral.read?` reads a
whole text as a numeral. It has one reading for each text, and it finds the numeral that was written
(`Numeral.read?_text`), so a text says exactly one number.
-/

namespace ScriptOutline

/-- The parts of a decimal numeral. -/
structure Numeral where
  /-- Whether a minus sign stands in front. -/
  negative : Bool
  /-- The digits before the point. -/
  whole : List Char
  /-- The digits behind the point; none if there is no point. -/
  fraction : List Char
  /-- The power of ten behind the letter, if there is one. -/
  exponent : Option Int
  deriving DecidableEq

/-- Plus one or minus one. -/
def signOf (negative : Bool) : ℚ := if negative then -1 else 1

/-- All characters are decimal digits. -/
def AreDigits (cs : List Char) : Prop := ∀ c ∈ cs, c.isDigit = true

theorem areDigits_append {cs ds : List Char} : AreDigits (cs ++ ds) ↔ AreDigits cs ∧ AreDigits ds :=
  List.forall_mem_append

theorem areDigits_zeros (count : Nat) : AreDigits (List.replicate count '0') := by
  intro c hc
  rw [List.eq_of_mem_replicate hc]
  rfl

theorem areDigits_toDigits (n : Nat) : AreDigits (Nat.toDigits 10 n) :=
  fun _ hc => Nat.isDigit_of_mem_toDigits (by decide) (by decide) hc

namespace Numeral

/-- The number that a numeral denotes. -/
def value (n : Numeral) : ℚ :=
  signOf n.negative * Nat.ofDigitChars 10 (n.whole ++ n.fraction) 0 *
    10 ^ (n.exponent.getD 0 - n.fraction.length)

/-- The parts are digits, and there is one before the point. -/
structure IsWellFormed (n : Numeral) : Prop where
  whole_ne_nil : n.whole ≠ []
  whole : AreDigits n.whole
  fraction : AreDigits n.fraction

/-! ## Writing -/

/-- The point and the digits behind it. -/
def fractionText : List Char → List Char
  | [] => []
  | digits => '.' :: digits

/-- The letter and the power of ten. -/
def scaleText : Option Int → List Char
  | none => []
  | some e => 'e' :: Scientific.exponentText e

/-- A numeral written out. -/
def text (n : Numeral) : List Char :=
  Double.signed n.negative (n.whole ++ (fractionText n.fraction ++ scaleText n.exponent))

/-- Digits on their own. -/
theorem text_plain (negative : Bool) (whole : List Char) :
    text ⟨negative, whole, [], none⟩ = Double.signed negative whole := by
  rw [text, fractionText, scaleText, List.append_nil, List.append_nil]

/-- Digits around a point. -/
theorem text_point (negative : Bool) (whole : List Char) {fraction : List Char}
    (h : fraction ≠ []) :
    text ⟨negative, whole, fraction, none⟩ = Double.signed negative (whole ++ '.' :: fraction) := by
  obtain ⟨d, ds, rfl⟩ := List.exists_cons_of_ne_nil h
  rw [text, fractionText, scaleText, List.append_nil]
  exact nofun

/-! ## Reading -/

/-- The power of ten at the end of a numeral: nothing, or the letter, a sign and digits. -/
def readScale? : List Char → Option (Option Int)
  | [] => some none
  | 'e' :: sign :: digits =>
    if digits = [] ∨ digits.all Char.isDigit = false then none
    else if sign = '+' then some (some (Nat.ofDigitChars 10 digits 0))
    else if sign = '-' then some (some (-Nat.ofDigitChars 10 digits 0))
    else none
  | _ => none

/-- The digits behind a point and the rest of the text. A point without digits is no numeral. -/
def readFraction? : List Char → Option (List Char × List Char)
  | '.' :: cs =>
    if cs.takeWhile Char.isDigit = [] then none
    else some (cs.takeWhile Char.isDigit, cs.dropWhile Char.isDigit)
  | cs => some ([], cs)

/-- A numeral behind its sign. -/
def readUnsigned? (negative : Bool) (cs : List Char) : Option Numeral :=
  if cs.takeWhile Char.isDigit = [] then none
  else
    (readFraction? (cs.dropWhile Char.isDigit)).bind fun found =>
      (readScale? found.2).map fun exponent =>
        ⟨negative, cs.takeWhile Char.isDigit, found.1, exponent⟩

/-- Reads a whole text as a numeral. -/
def read? : List Char → Option Numeral
  | '-' :: cs => readUnsigned? true cs
  | cs => readUnsigned? false cs

/-! ## Reading what was written -/

/-- The digits at the start of a text end where something else follows. -/
theorem takeDigits_append {digits rest : List Char} (hdigits : AreDigits digits)
    (hrest : ∀ c ∈ rest.head?, c.isDigit = false) :
    (digits ++ rest).takeWhile Char.isDigit = digits ∧
      (digits ++ rest).dropWhile Char.isDigit = rest := by
  rw [List.takeWhile_append_of_pos hdigits, List.dropWhile_append_of_pos hdigits]
  cases rest with
  | nil => exact ⟨List.append_nil digits, rfl⟩
  | cons c rest =>
    have hc : ¬c.isDigit = true := by
      rw [hrest c rfl]
      exact Bool.false_ne_true
    rw [List.takeWhile_cons_of_neg hc, List.dropWhile_cons_of_neg hc, List.append_nil]
    exact ⟨rfl, rfl⟩

theorem readScale?_scaleText (exponent : Option Int) :
    readScale? (scaleText exponent) = some exponent := by
  cases exponent with
  | none => rfl
  | some e =>
    have hall : (Nat.toDigits 10 e.natAbs).all Char.isDigit = true :=
      List.all_eq_true.2 (areDigits_toDigits _)
    have hdigits : ¬(Nat.toDigits 10 e.natAbs = [] ∨
        (Nat.toDigits 10 e.natAbs).all Char.isDigit = false) := by
      rintro (hnil | hnot)
      · exact Nat.toDigits_ne_nil hnil
      · rw [hall] at hnot
        cases hnot
    have hread : Nat.ofDigitChars 10 (Nat.toDigits 10 e.natAbs) 0 = e.natAbs :=
      Nat.ofDigitChars_ten_toDigits
    rw [scaleText, Scientific.exponentText]
    by_cases hpos : 0 ≤ e
    · have habs : (e.natAbs : Int) = e := by omega
      rw [if_pos hpos, readScale?, if_neg hdigits, if_pos rfl, hread, habs]
    · have habs : -(e.natAbs : Int) = e := by omega
      rw [if_neg hpos, readScale?, if_neg hdigits, if_neg (by decide), if_pos rfl, hread, habs]

theorem scaleText_start (exponent : Option Int) : ∀ c ∈ (scaleText exponent).head?, c = 'e' := by
  intro c hc
  cases exponent with
  | none => cases hc
  | some e => exact (Option.some.inj hc).symm

theorem readFraction?_append {fraction rest : List Char} (hfraction : AreDigits fraction)
    (hrest : ∀ c ∈ rest.head?, c = 'e') :
    readFraction? (fractionText fraction ++ rest) = some (fraction, rest) := by
  cases fraction with
  | nil =>
    rw [fractionText, List.nil_append]
    cases rest with
    | nil => rfl
    | cons c rest =>
      obtain rfl := hrest c rfl
      rfl
  | cons d ds =>
    have hend : ∀ c ∈ rest.head?, c.isDigit = false := by
      intro c hc
      rw [hrest c hc]
      rfl
    obtain ⟨htake, hdrop⟩ := takeDigits_append hfraction hend
    rw [fractionText, List.cons_append, readFraction?, htake, hdrop, if_neg (List.cons_ne_nil d ds)]
    exact nofun

theorem readUnsigned?_append {n : Numeral} (h : n.IsWellFormed) :
    readUnsigned? n.negative (n.whole ++ (fractionText n.fraction ++ scaleText n.exponent)) =
      some n := by
  have hstart := scaleText_start n.exponent
  have hend : ∀ c ∈ (fractionText n.fraction ++ scaleText n.exponent).head?, c.isDigit = false := by
    intro c hc
    cases hfraction : n.fraction with
    | nil =>
      rw [hfraction, fractionText, List.nil_append] at hc
      rw [hstart c hc]
      rfl
    | cons d ds =>
      rw [hfraction] at hc
      obtain rfl := Option.some.inj hc
      rfl
  obtain ⟨htake, hdrop⟩ := takeDigits_append h.whole hend
  rw [readUnsigned?, htake, hdrop, if_neg h.whole_ne_nil, readFraction?_append h.fraction hstart,
    Option.bind_some, readScale?_scaleText, Option.map_some]

/-- A numeral that is written out reads back as itself. -/
theorem read?_text {n : Numeral} (h : n.IsWellFormed) : read? n.text = some n := by
  have hread := readUnsigned?_append h
  obtain ⟨first, rest, hwhole⟩ := List.exists_cons_of_ne_nil h.whole_ne_nil
  have hfirst : first.isDigit = true := by
    refine h.whole first ?_
    rw [hwhole]
    exact List.mem_cons_self
  rw [text]
  cases hsign : n.negative with
  | true =>
    rw [hsign] at hread
    exact hread
  | false =>
    rw [hsign, hwhole, List.cons_append] at hread
    rw [hwhole, List.cons_append, Double.signed, if_neg Bool.false_ne_true, read?]
    · exact hread
    · rintro cs hcs
      obtain ⟨rfl, -⟩ := List.cons.inj hcs
      cases hfirst

/-! ## Integers -/

/-- An integer as a numeral, zero without a sign. -/
def ofInt (i : Int) : Numeral := ⟨decide (i < 0), Nat.toDigits 10 i.natAbs, [], none⟩

theorem isWellFormed_ofInt (i : Int) : (ofInt i).IsWellFormed :=
  ⟨Nat.toDigits_ne_nil, areDigits_toDigits _, nofun⟩

theorem text_ofInt (i : Int) : (ofInt i).text = integerText i := by
  rw [ofInt, text_plain, Double.signed, integerText]
  by_cases h : i < 0
  · rw [decide_eq_true h, if_pos rfl, if_pos h]
  · rw [decide_eq_false h, if_neg Bool.false_ne_true, if_neg h]

theorem value_ofInt (i : Int) : (ofInt i).value = i := by
  have hdigits : Nat.ofDigitChars 10 (Nat.toDigits 10 i.natAbs) 0 = i.natAbs :=
    Nat.ofDigitChars_ten_toDigits
  have habs : signOf (decide (i < 0)) * (i.natAbs : ℚ) = i := by
    by_cases h : i < 0
    · rw [decide_eq_true h, signOf, if_pos rfl, Nat.cast_natAbs, abs_of_neg h, Int.cast_neg,
        neg_one_mul, neg_neg]
    · rw [decide_eq_false h, signOf, if_neg Bool.false_ne_true, Nat.cast_natAbs,
        abs_of_nonneg (Int.not_lt.1 h), one_mul]
  have hscale : (10 : ℚ) ^ ((none : Option Int).getD 0 - (([] : List Char).length : Int)) = 1 := rfl
  rw [value, ofInt, List.append_nil, hdigits, habs, hscale, mul_one]

end Numeral

end ScriptOutline
