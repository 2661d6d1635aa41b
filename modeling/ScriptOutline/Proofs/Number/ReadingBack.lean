import ScriptOutline.Proofs.Number.ShortestDigits

/-!
# What reads back

The search for the shortest decimal looks whether a decimal lies in the interval around a magnitude.
That is whether the decimal is rounded to the magnitude: a fraction lies in the interval of what it is
rounded to (`attracts_of_ofRatio?`), and no number lies in two intervals (`Attracts.unique`), since
each interval ends where the next one begins or before, and a common end belongs to one of them only.
-/

namespace ScriptOutline

namespace Magnitude

open Scientific (interval ratioLe_iff ratioLt_iff)

variable {m m' : Magnitude} {num den : Nat} {x : ℚ}

/-! ## Fractions lie where they are rounded to -/

/-- What is rounded lies at most half a unit away from the multiple it is rounded to. -/
theorem roundedUnits_within (num : Nat) (hden : 0 < den) {unit multiple : Nat}
    (hunit : unit = den * twoPow (roundingShift num den))
    (hmultiple : multiple = roundedUnits num den * unit) :
    2 * (num * denominator) ≤ 2 * multiple + unit ∧ 2 * multiple ≤ 2 * (num * denominator) + unit ∧
      (roundedUnits num den % 2 = 0 ∨
        2 * (num * denominator) < 2 * multiple + unit ∧
          2 * multiple < 2 * (num * denominator) + unit) := by
  have hpos : 0 < unit := hunit ▸ Nat.mul_pos hden (twoPow_pos _)
  obtain ⟨hhalf, htie⟩ := roundHalfEven_within (num * denominator) hpos
  have hround : roundHalfEven (num * denominator) unit = roundedUnits num den := by
    rw [hunit, roundedUnits]
  rw [hround, ← Nat.cast_mul, ← hmultiple] at hhalf htie
  generalize num * denominator = scaled at hhalf htie ⊢
  rcases le_total multiple scaled with hle | hle
  · rw [abs_of_nonneg (by omega)] at hhalf htie
    omega
  · rw [abs_of_nonpos (by omega)] at hhalf htie
    omega

/-- The ends of an interval, over the denominator of a fraction. -/
theorem attracts_iff (hden : 0 < den) :
    m.Attracts (num / den) ↔
      (interval m).1 * den ≤ 4 * (num * denominator) ∧
        4 * (num * denominator) ≤ (interval m).2.1 * den ∧
        (m.mantissa % 2 = 0 ∨ (interval m).1 * den < 4 * (num * denominator) ∧
          4 * (num * denominator) < (interval m).2.1 * den) := by
  have hscale : 4 * (num * denominator) = num * (4 * denominator) := Nat.mul_left_comm _ _ _
  have hle := ratioLe_iff (a := (interval m).1) (c := num) quarters_pos hden
  have hle' := ratioLe_iff (a := num) (c := (interval m).2.1) hden quarters_pos
  have hlt := ratioLt_iff (a := (interval m).1) (c := num) quarters_pos hden
  have hlt' := ratioLt_iff (a := num) (c := (interval m).2.1) hden quarters_pos
  simp only [Scientific.ratioLe, Scientific.ratioLt, decide_eq_true_eq] at hle hle' hlt hlt'
  rw [hscale, hle, hle', hlt, hlt']
  exact ⟨fun h => ⟨h.low, h.high, h.ends⟩, fun h => ⟨h.1, h.2.1, h.2.2⟩⟩

theorem mul_twoPow_mul (k shift : Nat) : k * twoPow shift * den = k * (den * twoPow shift) := by
  rw [Nat.mul_assoc, Nat.mul_comm (twoPow shift)]

/-- The two ends of an interval. Below a power of two the next magnitude is only half as far away. -/
theorem interval_cases (m : Magnitude) :
    (interval m).2.1 = (4 * m.mantissa + 2) * twoPow m.shift ∧
      (m.mantissa = twoPow 52 ∧ 0 < m.shift ∧
          (interval m).1 = (4 * m.mantissa - 1) * twoPow m.shift ∨
        ¬ (m.mantissa = twoPow 52 ∧ 0 < m.shift) ∧
          (interval m).1 = (4 * m.mantissa - 2) * twoPow m.shift) := by
  refine ⟨rfl, ?_⟩
  unfold interval
  split
  · next h => exact .inl ⟨h.1, h.2, rfl⟩
  · next h => exact .inr ⟨h, rfl⟩

/-- A fraction that is rounded to a power of two beyond the mantissas has one more shift, so that the
units of the interval are two units of the rounding. -/
theorem attracts_of_full (hden : 0 < den) (hfull : roundedUnits num den = twoPow 53)
    (hmantissa : m.mantissa = twoPow 52) (hshift : m.shift = roundingShift num den + 1) :
    m.Attracts (num / den) := by
  have h52 : twoPow 52 = 2 ^ 52 := rfl
  have h53 : twoPow 53 = 2 ^ 53 := rfl
  have hwithin := roundedUnits_within num hden rfl rfl
  obtain ⟨hhigh, hlow⟩ := interval_cases m
  have hdouble (k : Nat) : k * twoPow (roundingShift num den + 1) * den =
      2 * k * (den * twoPow (roundingShift num den)) := by
    show k * 2 ^ (roundingShift num den + 1) * den = 2 * k * (den * 2 ^ roundingShift num den)
    ring
  have hfirst := hlow.resolve_right fun h => h.1 ⟨hmantissa, by omega⟩
  rw [attracts_iff hden, hhigh, hfirst.2.2, hshift, hdouble, hdouble, hmantissa, h52]
  rw [hfull, h53] at hwithin
  generalize den * twoPow (roundingShift num den) = unit at hwithin ⊢
  exact ⟨by omega, by omega, .inl rfl⟩

/-- A fraction is at most half a unit away from the multiple that it is rounded to, and not below the
smallest mantissa that is shifted as far. -/
theorem attracts_of_units (hden : 0 < den) (hmantissa : m.mantissa = roundedUnits num den)
    (hshift : m.shift = roundingShift num den) : m.Attracts (num / den) := by
  have hwithin := roundedUnits_within num hden rfl rfl
  have hpos : 0 < den * twoPow (roundingShift num den) := Nat.mul_pos hden (twoPow_pos _)
  obtain ⟨hhigh, hlow⟩ := interval_cases m
  rw [hmantissa, hshift] at hlow hhigh
  rw [attracts_iff hden, hhigh, hmantissa, mul_twoPow_mul, Nat.add_mul, Nat.mul_assoc]
  rcases hlow with ⟨hfirst, hshifted, hlow⟩ | ⟨-, hlow⟩
  · have hsmallest : roundedUnits num den * (den * twoPow (roundingShift num den)) ≤
        num * denominator := by
      rw [hfirst, ← mul_twoPow_mul]
      exact le_of_roundingShift_pos hden hshifted
    have heven : roundedUnits num den % 2 = 0 := by rw [hfirst]; decide
    rw [hlow, mul_twoPow_mul, Nat.sub_mul, Nat.mul_assoc]
    generalize den * twoPow (roundingShift num den) = unit at hwithin hsmallest hpos ⊢
    generalize roundedUnits num den * unit = multiple at hwithin hsmallest ⊢
    exact ⟨by omega, by omega, .inl heven⟩
  · have hone : roundedUnits num den % 2 = 0 ∨ 1 * (den * twoPow (roundingShift num den)) ≤
        roundedUnits num den * (den * twoPow (roundingShift num den)) :=
      (Nat.eq_zero_or_pos (roundedUnits num den)).imp (fun h => by rw [h])
        (Nat.mul_le_mul_right _)
    rw [hlow, mul_twoPow_mul, Nat.sub_mul, Nat.mul_assoc]
    generalize den * twoPow (roundingShift num den) = unit at hwithin hone hpos ⊢
    generalize roundedUnits num den * unit = multiple at hwithin hone ⊢
    omega

/-- A fraction lies in the interval of the magnitude that it is rounded to. -/
theorem attracts_of_ofRatio? (hden : 0 < den) (h : ofRatio? num den = some m) :
    m.Attracts (num / den) := by
  rw [ofRatio?_eq] at h
  by_cases hfull : roundedUnits num den = twoPow 53
  · rw [if_pos hfull] at h
    obtain ⟨hmantissa, hshift⟩ := eq_of_ofParts? h
    exact attracts_of_full hden hfull hmantissa hshift
  · rw [if_neg hfull] at h
    obtain ⟨hmantissa, hshift⟩ := eq_of_ofParts? h
    exact attracts_of_units hden hmantissa hshift

/-! ## Intervals are apart -/

/-- The interval of a smaller magnitude ends where that of a larger one begins or before, and if they
have an end in common then one of the two mantissas is odd. -/
theorem interval_le_interval (h : m.numerator < m'.numerator) :
    (interval m).2.1 ≤ (interval m').1 ∧
      ((interval m).2.1 = (interval m').1 → m.mantissa % 2 = 1 ∨ m'.mantissa % 2 = 1) := by
  have h52 : twoPow 52 = 2 ^ 52 := rfl
  obtain ⟨hhigh, -⟩ := interval_cases m
  obtain ⟨-, hlow⟩ := interval_cases m'
  have hmantissa : m.mantissa < 2 ^ 53 := m.mantissa_lt
  have hnormal := m.normal
  have hnormal' := m'.normal
  rw [hhigh]
  rcases Nat.lt_trichotomy m.shift m'.shift with hlt | heq | hgt
  · -- The unit of the larger one is at least twice as large.
    have hfull := hnormal'.resolve_left (by omega)
    have hstart : (2 ^ 54 - 1) * twoPow m'.shift ≤ (interval m').1 := by
      rcases hlow with ⟨hfirst, -, hlow⟩ | ⟨hother, hlow⟩
      · rw [hlow, hfirst]
        exact Nat.le_refl _
      · rw [hlow]
        have hne : m'.mantissa ≠ twoPow 52 := fun heq => hother ⟨heq, by omega⟩
        exact Nat.mul_le_mul_right _ (by omega)
    have hunits : (2 ^ 54 - 1) * (2 * twoPow m.shift) ≤ (2 ^ 54 - 1) * twoPow m'.shift :=
      Nat.mul_le_mul_left _ (two_mul_twoPow_le hlt)
    have hend : (4 * m.mantissa + 2) * twoPow m.shift ≤ (2 ^ 55 - 2) * twoPow m.shift :=
      Nat.mul_le_mul_right _ (by omega)
    refine ⟨by omega, fun hsame => .inl ?_⟩
    have hlast : 4 * m.mantissa + 2 = 2 ^ 55 - 2 :=
      Nat.eq_of_mul_eq_mul_right (twoPow_pos m.shift) (by omega)
    omega
  · rw [numerator, numerator, ← heq] at h
    have hless := Nat.lt_of_mul_lt_mul_right h
    rw [← heq] at hlow
    rcases hlow with ⟨hfirst, hshift, -⟩ | ⟨-, hlow⟩
    · exact absurd (hnormal.resolve_left (by omega)) (by omega)
    · rw [hlow]
      refine ⟨Nat.mul_le_mul_right _ (by omega), fun hsame => ?_⟩
      have hnext := Nat.eq_of_mul_eq_mul_right (twoPow_pos m.shift) hsame
      omega
  · -- The smaller one has a full mantissa and a larger unit, so it would not be smaller.
    have hfull : twoPow 52 * twoPow m.shift ≤ m.numerator :=
      Nat.mul_le_mul_right _ (hnormal.resolve_left (by omega))
    exact absurd (numerator_lt hgt) (Nat.not_lt.2 (hfull.trans h.le))

/-- A number lies in the interval of one magnitude only. -/
theorem Attracts.not_lt (h : m.Attracts x) (h' : m'.Attracts x) : ¬ m.numerator < m'.numerator := by
  intro hlt
  obtain ⟨hle, hcommon⟩ := interval_le_interval hlt
  have hden : (0 : ℚ) < (4 * denominator : ℕ) := by exact_mod_cast quarters_pos
  have hends : m.highEnd ≤ m'.lowEnd :=
    div_le_div_of_nonneg_right (by exact_mod_cast hle) hden.le
  have hsame : m.highEnd = m'.lowEnd := le_antisymm hends (h'.low.trans h.high)
  have hinterval : (interval m).2.1 = (interval m').1 := by
    exact_mod_cast (div_left_inj' hden.ne').1 hsame
  have hx : x = m.highEnd := le_antisymm h.high (hsame ▸ h'.low)
  rcases hcommon hinterval with hodd | hodd
  · have hopen := h.ends.resolve_left (by omega)
    exact absurd hx hopen.2.ne
  · have hopen := h'.ends.resolve_left (by omega)
    exact absurd (hx.trans hsame) hopen.1.ne'

theorem eq_of_numerator_eq (h : m.numerator = m'.numerator) : m = m' := by
  have hself := ofRatio?_of_eq m denominator_pos rfl
  rw [h, ofRatio?_of_eq m' denominator_pos rfl] at hself
  exact (Option.some.inj hself).symm

theorem Attracts.unique (h : m.Attracts x) (h' : m'.Attracts x) : m = m' :=
  eq_of_numerator_eq (Nat.le_antisymm (Nat.not_lt.1 (h'.not_lt h)) (Nat.not_lt.1 (h.not_lt h')))

/-- A fraction that is not too large and lies in the interval of a magnitude is rounded to it. -/
theorem ofRatio?_of_attracts {k : Nat} (hk : k ≤ 1022) (hden : 0 < den)
    (hrange : num < twoPow k * den) (h : m.Attracts (num / den)) : ofRatio? num den = some m := by
  obtain ⟨n, hn⟩ := exists_ofRatio? hk hden hrange
  rw [hn, (attracts_of_ofRatio? hden hn).unique h]

end Magnitude

end ScriptOutline
