import ScriptOutline.Proofs.Number.Nearest

/-!
# Rounding keeps the order

What a larger fraction is rounded to is no smaller, and a fraction below one that is in range is in
range itself. Both are seen from the number that `Magnitude.ofRatio?` rounds to before it looks at the
range (`roundedNumerator`): it grows with the fraction, and the range ends at one number
(`isSome_ofRatio?_iff`).
-/

namespace ScriptOutline

namespace Magnitude

variable {num num' den : Nat}

/-- What a fraction is rounded to, over the common denominator. -/
def roundedNumerator (num den : Nat) : Nat :=
  roundedUnits num den * twoPow (roundingShift num den)

/-! ## The order -/

theorem roundHalfEven_mono (den : Nat) (h : num ≤ num') :
    roundHalfEven num den ≤ roundHalfEven num' den := by
  have hquotient : num / den ≤ num' / den := Nat.div_le_div_right h
  have hparity := Nat.mod_two_eq_zero_or_one (num / den)
  rcases hquotient.lt_or_eq with hlt | heq
  · -- The smaller one is at most rounded up to the quotient of the larger one.
    simp only [roundHalfEven]
    split_ifs <;> omega
  · have hrest : num % den ≤ num' % den := by
      have hsplit := Nat.div_add_mod num den
      have hsplit' := Nat.div_add_mod num' den
      rw [← heq] at hsplit'
      omega
    simp only [roundHalfEven, ← heq]
    split_ifs <;> omega

theorem roundingShift_mono (den : Nat) (h : num ≤ num') :
    roundingShift num den ≤ roundingShift num' den := by
  have hscaled : num * denominator / den ≤ num' * denominator / den :=
    Nat.div_le_div_right (Nat.mul_le_mul_right _ h)
  have hlog : Nat.log2 (num * denominator / den) ≤ Nat.log2 (num' * denominator / den) := by
    rcases Nat.eq_zero_or_pos (num * denominator / den) with hzero | hpos
    · rw [hzero, Nat.log2_zero]
      exact Nat.zero_le _
    · have hne := Nat.pos_iff_ne_zero.1 hpos
      rw [Nat.le_log2 (by omega)]
      exact (Nat.log2_self_le hne).trans hscaled
  unfold roundingShift
  omega

/-- The numbers that are rounded to grow with the fraction. -/
theorem roundedNumerator_mono (hden : 0 < den) (h : num ≤ num') :
    roundedNumerator num den ≤ roundedNumerator num' den := by
  unfold roundedNumerator
  rcases (roundingShift_mono den h).lt_or_eq with hlt | heq
  · -- With a larger shift the smallest mantissa is as large as the largest one before.
    have hpow : twoPow (roundingShift num den + 1) ≤ twoPow (roundingShift num' den) :=
      Nat.pow_le_pow_right (by decide) hlt
    calc roundedUnits num den * twoPow (roundingShift num den)
        ≤ twoPow 53 * twoPow (roundingShift num den) :=
          Nat.mul_le_mul_right _ (roundedUnits_le num hden)
      _ = twoPow 52 * twoPow (roundingShift num den + 1) := (mul_twoPow_succ _).symm
      _ ≤ roundedUnits num' den * twoPow (roundingShift num' den) :=
          Nat.mul_le_mul (le_roundedUnits hden (by omega)) hpow
  · have hunits : roundedUnits num den ≤ roundedUnits num' den := by
      unfold roundedUnits
      rw [heq]
      exact roundHalfEven_mono _ (Nat.mul_le_mul_right _ h)
    rw [heq]
    exact Nat.mul_le_mul_right _ hunits

/-- What a larger fraction is rounded to is no smaller. -/
theorem numerator_le_of_ofRatio? {m m' : Magnitude} (hden : 0 < den) (h : num ≤ num')
    (hm : ofRatio? num den = some m) (hm' : ofRatio? num' den = some m') :
    m.numerator ≤ m'.numerator := by
  rw [(numerator_of_ofRatio? hm).1, (numerator_of_ofRatio? hm').1]
  exact roundedNumerator_mono hden h

/-! ## The range -/

theorem isSome_ofParts?_iff {mantissa shift : Nat} (hmantissa : mantissa < twoPow 53)
    (hnormal : shift = 0 ∨ twoPow 52 ≤ mantissa) :
    (ofParts? mantissa shift).isSome = true ↔ shift ≤ 2045 := by
  unfold ofParts?
  split
  · next h => exact iff_of_true rfl h.2.1
  · next h => exact iff_of_false Bool.false_ne_true fun hshift => h ⟨hmantissa, hshift, hnormal⟩

/-- A number with a canonical mantissa is below the end of the range if its shift is. -/
theorem mul_twoPow_lt_iff {units shift limit : Nat} (hunits : units < twoPow 53)
    (hnormal : shift = 0 ∨ twoPow 52 ≤ units) :
    units * twoPow shift < twoPow 53 * twoPow limit ↔ shift ≤ limit := by
  constructor
  · intro h
    by_contra hshift
    have hpow : twoPow (limit + 1) ≤ twoPow shift := Nat.pow_le_pow_right (by decide) (by omega)
    have hlarge := Nat.mul_le_mul (hnormal.resolve_left (by omega)) hpow
    rw [mul_twoPow_succ] at hlarge
    omega
  · intro h
    have hpow : twoPow shift ≤ twoPow limit := Nat.pow_le_pow_right (by decide) h
    exact Nat.mul_lt_mul_of_lt_of_le hunits hpow (twoPow_pos limit)

/-- A fraction is in range if what it is rounded to is below the end of the range. -/
theorem isSome_ofRatio?_iff (hden : 0 < den) :
    (ofRatio? num den).isSome = true ↔ roundedNumerator num den < twoPow 53 * twoPow 2045 := by
  have hnormal : roundingShift num den = 0 ∨ twoPow 52 ≤ roundedUnits num den :=
    (Nat.eq_zero_or_pos _).imp_right (le_roundedUnits hden)
  rw [ofRatio?_eq, roundedNumerator]
  by_cases hfull : roundedUnits num den = twoPow 53
  · have hcarry : roundedUnits num den * twoPow (roundingShift num den) =
        twoPow 52 * twoPow (roundingShift num den + 1) := by
      rw [hfull, mul_twoPow_succ]
    rw [if_pos hfull, hcarry, isSome_ofParts?_iff (by decide) (.inr (Nat.le_refl _)),
      mul_twoPow_lt_iff (by decide) (.inr (Nat.le_refl _))]
  · have hunits := Nat.lt_of_le_of_ne (roundedUnits_le num hden) hfull
    rw [if_neg hfull, isSome_ofParts?_iff hunits hnormal, mul_twoPow_lt_iff hunits hnormal]

/-- A fraction below one that is in range is in range. -/
theorem isSome_ofRatio?_mono (hden : 0 < den) (h : num ≤ num')
    (hsome : (ofRatio? num' den).isSome = true) : (ofRatio? num den).isSome = true := by
  rw [isSome_ofRatio?_iff hden] at hsome ⊢
  exact (roundedNumerator_mono hden h).trans_lt hsome

end Magnitude

end ScriptOutline
