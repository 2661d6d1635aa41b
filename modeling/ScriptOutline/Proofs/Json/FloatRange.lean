import ScriptOutline.Json.Reader
import ScriptOutline.Proofs.Number.RoundingOrder
import ScriptOutline.Proofs.Number.ShortestValue

/-!
# Floats in range

The reader of floats takes the digits as one whole number, rounds that and a power of ten, and
multiplies or divides the two. A quotient is never out of range. A product is the larger the more the
digits denote, so it is enough to look at the largest number that a text can have for each power of
ten: the shortest decimal of the greatest double, or a number of eighteen digits.
-/

namespace ScriptOutline

namespace Double

open Magnitude (denominator)
open Scientific (greatestDecimal)

theorem isFinite_ofSize? (negative : Bool) (size : Option Magnitude) :
    (ofSize? negative size).isFinite = size.isSome := by
  cases size <;> rfl

theorem exists_of_isFinite_ofNat {n : Nat} (h : (ofNat n).isFinite = true) :
    ∃ a, Magnitude.ofRatio? n 1 = some a ∧ ofNat n = .finite false a := by
  rw [ofNat, ofRatio, isFinite_ofSize?] at h
  obtain ⟨a, ha⟩ := Option.isSome_iff_exists.1 h
  exact ⟨a, ha, by rw [ofNat, ofRatio, ha, ofSize?]⟩

theorem isFinite_ofNat_mono {n n' : Nat} (hn : n ≤ n') (h : (ofNat n').isFinite = true) :
    (ofNat n).isFinite = true := by
  rw [ofNat, ofRatio, isFinite_ofSize?] at h ⊢
  exact Magnitude.isSome_ofRatio?_mono Nat.one_pos hn h

theorem isFinite_of_mul {x y : Double} (h : (x.mul y).isFinite = true) :
    x.isFinite = true ∧ y.isFinite = true := by
  cases x <;> cases y <;> first | exact ⟨rfl, rfl⟩ | cases h

theorem isFinite_mul_finite (s t : Bool) (a b : Magnitude) :
    ((finite s a).mul (finite t b)).isFinite =
      (Magnitude.ofRatio? (a.numerator * b.numerator) (denominator * denominator)).isSome := by
  rw [mul, ofRatio, isFinite_ofSize?]

/-- With smaller factors a product stays in range. -/
theorem isFinite_mul_mono {s s' p p' : Nat} (hs : s ≤ s') (hp : p ≤ p')
    (h : ((ofNat s').mul (ofNat p')).isFinite = true) :
    ((ofNat s).mul (ofNat p)).isFinite = true := by
  obtain ⟨hfinite, hfinite'⟩ := isFinite_of_mul h
  obtain ⟨a', ha', hs'⟩ := exists_of_isFinite_ofNat hfinite
  obtain ⟨b', hb', hp'⟩ := exists_of_isFinite_ofNat hfinite'
  obtain ⟨a, ha, hsa⟩ := exists_of_isFinite_ofNat (isFinite_ofNat_mono hs hfinite)
  obtain ⟨b, hb, hpb⟩ := exists_of_isFinite_ofNat (isFinite_ofNat_mono hp hfinite')
  rw [hs', hp', isFinite_mul_finite] at h
  rw [hsa, hpb, isFinite_mul_finite]
  have hproduct : a.numerator * b.numerator ≤ a'.numerator * b'.numerator :=
    Nat.mul_le_mul (Magnitude.numerator_le_of_ofRatio? Nat.one_pos hs ha ha')
      (Magnitude.numerator_le_of_ofRatio? Nat.one_pos hp hb hb')
  have hden := Nat.mul_pos Magnitude.denominator_pos Magnitude.denominator_pos
  exact Magnitude.isSome_ofRatio?_mono hden hproduct h

/-- A power of ten that is not too large is multiplied by. -/
theorem isSome_scaled?_natCast {s k : Nat} (hk : k ≤ 308) :
    (scaled? s k).isSome = ((ofNat s).mul (ofNat (tenPow k))).isFinite := by
  rw [scaled?, if_neg (by omega), if_pos (Int.natCast_nonneg k), Int.toNat_natCast]
  generalize (ofNat s).mul (ofNat (tenPow k)) = product
  cases product <;> rfl

theorem tenPow_le_tenPow {j k : Nat} (h : j ≤ k) : tenPow j ≤ tenPow k :=
  Nat.pow_le_pow_right (by decide) h

/-- The largest numbers that a text can have with a power of ten are in range. Below the first one of
these powers they are all the same. -/
theorem isFinite_largest : ∀ k < 309, 290 ≤ k →
    ((ofNat (min (10 ^ 18) (greatestDecimal / tenPow k))).mul (ofNat (tenPow k))).isFinite =
      true := by
  decide +kernel

theorem isFinite_mul_tenPow {s k : Nat} (hk : k ≤ 308) (hdigits : s ≤ 10 ^ 18)
    (hvalue : s * tenPow k ≤ greatestDecimal) :
    ((ofNat s).mul (ofNat (tenPow k))).isFinite = true := by
  rcases Nat.lt_or_ge k 290 with hlow | hhigh
  · have hmin : 10 ^ 18 ≤ greatestDecimal / tenPow 290 := by decide +kernel
    have hbound : s ≤ min (10 ^ 18) (greatestDecimal / tenPow 290) :=
      Nat.le_min.2 ⟨hdigits, hdigits.trans hmin⟩
    exact isFinite_mul_mono hbound (tenPow_le_tenPow hlow.le)
      (isFinite_largest 290 (by decide) (Nat.le_refl _))
  · have hbound : s ≤ min (10 ^ 18) (greatestDecimal / tenPow k) :=
      Nat.le_min.2 ⟨hdigits, (Nat.le_div_iff_mul_le (Nat.pow_pos (by decide))).2 hvalue⟩
    exact isFinite_mul_mono hbound (Nat.le_refl _) (isFinite_largest k (by omega) hhigh)

/-- Digits and a power of ten are in range if they are no more than the shortest decimal of the
greatest double. -/
theorem isSome_scaled? {s : Nat} {e : Int} (hdigits : s ≤ 10 ^ 18)
    (hvalue : (s : ℚ) * 10 ^ e ≤ greatestDecimal) : (scaled? s e).isSome = true := by
  rcases Int.lt_or_le e 0 with hneg | hpos
  · rw [scaled?, if_neg (by omega), if_neg (by omega)]
    split <;> rfl
  obtain ⟨k, rfl⟩ := Int.eq_ofNat_of_zero_le hpos
  have hproduct : s * tenPow k ≤ greatestDecimal := by
    rw [zpow_natCast, ← Scientific.cast_tenPow] at hvalue
    exact_mod_cast hvalue
  rcases Nat.lt_or_ge 308 k with hlarge | hsmall
  · have hzero : s = 0 := by
      by_contra hne
      have hpow : tenPow 309 ≤ tenPow k := tenPow_le_tenPow hlarge
      have hmul : 1 * tenPow 309 ≤ s * tenPow k := Nat.mul_le_mul (Nat.pos_of_ne_zero hne) hpow
      have hrange : greatestDecimal < 1 * tenPow 309 := by decide +kernel
      exact absurd (hmul.trans hproduct) (Nat.not_le.2 hrange)
    rw [scaled?, if_pos (by omega), if_pos hzero]
    rfl
  · rw [isSome_scaled?_natCast hsmall]
    exact isFinite_mul_tenPow hsmall hdigits hproduct

end Double

end ScriptOutline
