import Mathlib.Algebra.Order.Field.Basic
import Mathlib.Algebra.Order.Field.Rat
import Mathlib.Tactic.FieldSimp
import Mathlib.Tactic.Linarith
import Mathlib.Tactic.Ring
import ScriptOutline.Number.Double

/-!
# Rounding to the nearest double

`Magnitude.ofRatio?` takes as many bits of a fraction as a mantissa has and rounds what is behind
them. Here is what that means for the result as a number: no other magnitude is nearer to the
fraction, and of two that are equally near it is the one with the even mantissa
(`isNearest_of_ofRatio?`).

Distances are compared over the common denominator, where a magnitude is a multiple of the power of
two that it is shifted by. A magnitude that is shifted as far as the result or further is one of the
multiples that were rounded to. One that is shifted less lies below all of them.
-/

namespace ScriptOutline

namespace Magnitude

/-- The magnitude as a number. -/
def value (m : Magnitude) : ℚ := m.numerator / denominator

/-- No magnitude is nearer to the number, and of two equally near ones it is the even one. -/
structure IsNearest (m : Magnitude) (x : ℚ) : Prop where
  le : ∀ n : Magnitude, |m.value - x| ≤ |n.value - x|
  even : ∀ n : Magnitude, n.value ≠ m.value → |m.value - x| = |n.value - x| → m.mantissa % 2 = 0

theorem twoPow_pos (n : Nat) : 0 < twoPow n := Nat.two_pow_pos n

theorem two_mul_twoPow_le {k n : Nat} (h : k < n) : 2 * twoPow k ≤ twoPow n :=
  Nat.pow_succ'.symm.trans_le (Nat.pow_le_pow_right (by decide) h)

/-- A full mantissa is half of one with one more shift. -/
theorem mul_twoPow_succ (k : Nat) : twoPow 52 * twoPow (k + 1) = twoPow 53 * twoPow k := by
  show 2 ^ 52 * 2 ^ (k + 1) = 2 ^ 53 * 2 ^ k
  ring

theorem denominator_pos : 0 < denominator := by
  unfold denominator
  exact twoPow_pos _

/-! ## Rounding to an integer -/

variable {num den : Nat}

/-- What is rounded lies at most half a unit away, and half a unit from an even number only. -/
theorem roundHalfEven_within (num : Nat) (hden : 0 < den) :
    2 * |(num : ℤ) - roundHalfEven num den * den| ≤ den ∧
      (2 * |(num : ℤ) - roundHalfEven num den * den| = den → roundHalfEven num den % 2 = 0) := by
  have hsplit : (num : ℤ) = (num / den : ℕ) * den + (num % den : ℕ) := by
    exact_mod_cast (Nat.div_add_mod' num den).symm
  have hrest : num % den < den := Nat.mod_lt num hden
  have hround : roundHalfEven num den =
      if 2 * (num % den) < den then num / den
      else if den < 2 * (num % den) then num / den + 1
      else num / den + num / den % 2 := rfl
  rw [hround]
  generalize num / den = q at hsplit
  generalize num % den = r at hsplit hrest
  by_cases hlow : 2 * r < den
  · have hdist : (num : ℤ) - q * den = r := by
      rw [hsplit]
      ring
    rw [if_pos hlow, hdist, Nat.abs_cast]
    omega
  by_cases hhigh : den < 2 * r
  · have hdist : (num : ℤ) - (q + 1 : ℕ) * den = -((den - r : ℕ) : ℤ) := by
      rw [hsplit, Nat.cast_sub hrest.le]
      push_cast
      ring
    rw [if_neg hlow, if_pos hhigh, hdist, abs_neg, Nat.abs_cast]
    omega
  · have hhalf : den = 2 * r := by omega
    rw [if_neg hlow, if_neg hhigh]
    rcases Nat.mod_two_eq_zero_or_one q with heven | hodd
    · have hdist : (num : ℤ) - (q + q % 2 : ℕ) * den = r := by
        rw [hsplit, heven, Nat.add_zero]
        ring
      rw [hdist, Nat.abs_cast]
      omega
    · have hdist : (num : ℤ) - (q + q % 2 : ℕ) * den = -(r : ℤ) := by
        rw [hsplit, hodd, hhalf]
        push_cast
        ring
      rw [hdist, abs_neg, Nat.abs_cast]
      omega

/-- No integer is nearer than the one that is rounded to. -/
theorem roundHalfEven_nearest (hden : 0 < den) (k : Nat) :
    |(num : ℤ) - roundHalfEven num den * den| ≤ |(num : ℤ) - k * den| ∧
      (k ≠ roundHalfEven num den →
        |(num : ℤ) - roundHalfEven num den * den| = |(num : ℤ) - k * den| →
          roundHalfEven num den % 2 = 0) := by
  obtain ⟨hhalf, htie⟩ := roundHalfEven_within num hden
  generalize roundHalfEven num den = r at hhalf htie ⊢
  by_cases hk : k = r
  · subst hk
    exact ⟨le_refl _, fun h => absurd rfl h⟩
  · -- Another integer is at least a whole unit away from the one that is rounded to.
    have hunit : (den : ℤ) ≤ |(k : ℤ) * den - r * den| := by
      have hone : 1 ≤ |(k : ℤ) - r| := Int.one_le_abs (sub_ne_zero.2 (by exact_mod_cast hk))
      rw [← sub_mul, abs_mul, Nat.abs_cast]
      exact le_mul_of_one_le_left (Int.natCast_nonneg den) hone
    have htriangle : |(k : ℤ) * den - r * den| ≤
        |(num : ℤ) - r * den| + |(num : ℤ) - k * den| := by
      have hsum := abs_sub ((num : ℤ) - r * den) ((num : ℤ) - k * den)
      rwa [sub_sub_sub_cancel_left] at hsum
    refine ⟨by linarith, fun _ heq => htie ?_⟩
    linarith

/-! ## Rounding to a magnitude -/

/-- How far a fraction is shifted to be rounded. -/
def roundingShift (num den : Nat) : Nat := Nat.log2 (num * denominator / den) + 1 - 53

/-- What a fraction is rounded to, counted in units of its shift. -/
def roundedUnits (num den : Nat) : Nat :=
  roundHalfEven (num * denominator) (den * twoPow (roundingShift num den))

/-- The distance between a fraction and a numerator, over the product of the denominators. -/
def distance (num den numerator : Nat) : ℤ :=
  |((num * denominator : ℕ) : ℤ) - ((numerator * den : ℕ) : ℤ)|

theorem ofRatio?_eq (num den : Nat) :
    ofRatio? num den =
      if roundedUnits num den = twoPow 53 then ofParts? (twoPow 52) (roundingShift num den + 1)
      else ofParts? (roundedUnits num den) (roundingShift num den) := rfl

theorem eq_of_ofParts? {mantissa shift : Nat} {m : Magnitude}
    (h : ofParts? mantissa shift = some m) : m.mantissa = mantissa ∧ m.shift = shift := by
  unfold ofParts? at h
  split at h
  · cases h
    exact ⟨rfl, rfl⟩
  · cases h

/-- The result is the multiple that was rounded to, and even if that is. -/
theorem numerator_of_ofRatio? {m : Magnitude} (h : ofRatio? num den = some m) :
    m.numerator = roundedUnits num den * twoPow (roundingShift num den) ∧
      (roundedUnits num den % 2 = 0 → m.mantissa % 2 = 0) := by
  rw [ofRatio?_eq] at h
  unfold numerator
  by_cases hfull : roundedUnits num den = twoPow 53
  · rw [if_pos hfull] at h
    obtain ⟨hmantissa, hshift⟩ := eq_of_ofParts? h
    rw [hmantissa, hshift, hfull]
    exact ⟨mul_twoPow_succ _, fun _ => by decide⟩
  · rw [if_neg hfull] at h
    obtain ⟨hmantissa, hshift⟩ := eq_of_ofParts? h
    rw [hmantissa, hshift]
    exact ⟨rfl, id⟩

/-- No multiple of the unit is nearer than the one that is rounded to. -/
theorem distance_roundedUnits (num : Nat) (hden : 0 < den) (k : Nat) :
    distance num den (roundedUnits num den * twoPow (roundingShift num den)) ≤
        distance num den (k * twoPow (roundingShift num den)) ∧
      (k ≠ roundedUnits num den →
        distance num den (roundedUnits num den * twoPow (roundingShift num den)) =
            distance num den (k * twoPow (roundingShift num den)) →
          roundedUnits num den % 2 = 0) := by
  have hunit : 0 < den * twoPow (roundingShift num den) :=
    Nat.mul_pos hden (twoPow_pos _)
  have hdistance (j : Nat) : distance num den (j * twoPow (roundingShift num den)) =
      |((num * denominator : ℕ) : ℤ) - j * (den * twoPow (roundingShift num den) : ℕ)| := by
    rw [distance, Nat.mul_assoc, Nat.mul_comm (twoPow _) den, Nat.cast_mul j]
  rw [hdistance, hdistance]
  exact roundHalfEven_nearest hunit k

/-- A fraction that is shifted is at least as large as the smallest mantissa of its shift. -/
theorem le_of_roundingShift_pos (hden : 0 < den) (h : 0 < roundingShift num den) :
    2 ^ 52 * twoPow (roundingShift num den) * den ≤ num * denominator := by
  have hbits : Nat.log2 (num * denominator / den) = 52 + roundingShift num den := by
    unfold roundingShift at h ⊢
    omega
  have hne : num * denominator / den ≠ 0 := by
    intro hzero
    rw [hzero, Nat.log2_zero] at hbits
    omega
  have hpow : 2 ^ (52 + roundingShift num den) ≤ num * denominator / den :=
    (Nat.le_log2 hne).1 (le_of_eq hbits.symm)
  rw [Nat.pow_add] at hpow
  exact (Nat.le_div_iff_mul_le hden).1 hpow

/-- A magnitude that is shifted less than the fraction lies below its smallest mantissa. -/
theorem numerator_lt {n : Magnitude} {shift : Nat} (h : n.shift < shift) :
    n.numerator < 2 ^ 52 * twoPow shift := by
  have hmantissa : n.mantissa < 2 ^ 53 := n.mantissa_lt
  calc n.mantissa * 2 ^ n.shift < 2 ^ 53 * 2 ^ n.shift :=
        Nat.mul_lt_mul_of_pos_right hmantissa (twoPow_pos _)
    _ = 2 ^ 52 * (2 * 2 ^ n.shift) := by ring
    _ ≤ 2 ^ 52 * 2 ^ shift := Nat.mul_le_mul_left _ (two_mul_twoPow_le h)

/-- Every magnitude is one of the multiples that the fraction may be rounded to, or it is further
away than one of them. -/
theorem exists_units (num : Nat) (hden : 0 < den) (n : Magnitude) :
    ∃ k, n.numerator = k * twoPow (roundingShift num den) ∨
      distance num den (k * twoPow (roundingShift num den)) < distance num den n.numerator := by
  by_cases hshift : roundingShift num den ≤ n.shift
  · refine ⟨n.mantissa * 2 ^ (n.shift - roundingShift num den), .inl ?_⟩
    have hpow : 2 ^ (n.shift - roundingShift num den) * 2 ^ roundingShift num den = 2 ^ n.shift :=
      Nat.pow_sub_mul_pow 2 hshift
    show n.mantissa * 2 ^ n.shift = _ * 2 ^ roundingShift num den
    rw [Nat.mul_assoc, hpow]
  · have hshifted : 0 < roundingShift num den := by omega
    have hlarge := le_of_roundingShift_pos hden hshifted
    have hsmall : n.numerator * den < 2 ^ 52 * twoPow (roundingShift num den) * den :=
      Nat.mul_lt_mul_of_pos_right (numerator_lt (by omega)) hden
    refine ⟨2 ^ 52, .inr ?_⟩
    rw [distance, distance]
    generalize 2 ^ 52 * twoPow (roundingShift num den) * den = t at hlarge hsmall ⊢
    generalize num * denominator = a at hlarge ⊢
    generalize n.numerator * den = b at hsmall ⊢
    have hnear : (0 : ℤ) ≤ (a : ℤ) - t := by omega
    have hfar : (0 : ℤ) ≤ (a : ℤ) - b := by omega
    rw [abs_of_nonneg hnear, abs_of_nonneg hfar]
    omega

/-- Distances between numbers are distances over the product of the denominators. -/
theorem abs_value_sub (hden : 0 < den) (n : Magnitude) :
    |n.value - num / den| = (distance num den n.numerator : ℚ) / (denominator * den) := by
  have hd : (0 : ℚ) < denominator := by exact_mod_cast denominator_pos
  have hq : (0 : ℚ) < den := by exact_mod_cast hden
  have hsub : n.value - num / den =
      -(((num * denominator : ℕ) : ℤ) - ((n.numerator * den : ℕ) : ℤ) : ℚ) /
        (denominator * den) := by
    unfold value
    push_cast
    field_simp
    ring
  rw [hsub, abs_div, abs_neg, abs_of_pos (mul_pos hd hq), distance]
  push_cast
  rfl

/-- The magnitude that a fraction is rounded to is the nearest one. -/
theorem isNearest_of_ofRatio? {m : Magnitude} (hden : 0 < den) (h : ofRatio? num den = some m) :
    m.IsNearest (num / den) := by
  obtain ⟨hnumerator, heven⟩ := numerator_of_ofRatio? h
  have hscale : (0 : ℚ) < denominator * den := by exact_mod_cast Nat.mul_pos denominator_pos hden
  constructor
  · intro n
    have hdistance : distance num den m.numerator ≤ distance num den n.numerator := by
      obtain ⟨k, hk | hk⟩ := exists_units num hden n
      · rw [hnumerator, hk]
        exact (distance_roundedUnits num hden k).1
      · rw [hnumerator]
        exact (distance_roundedUnits num hden k).1.trans hk.le
    rw [abs_value_sub hden, abs_value_sub hden]
    exact (div_le_div_iff_of_pos_right hscale).2 (by exact_mod_cast hdistance)
  · intro n hne heq
    rw [abs_value_sub hden, abs_value_sub hden, div_left_inj' hscale.ne'] at heq
    have hdistance : distance num den m.numerator = distance num den n.numerator := by
      exact_mod_cast heq
    rw [hnumerator] at hdistance
    obtain ⟨k, hk | hk⟩ := exists_units num hden n
    · have hunits : k ≠ roundedUnits num den := by
        rintro rfl
        refine hne ?_
        rw [value, value, hk, hnumerator]
      rw [hk] at hdistance
      exact heven ((distance_roundedUnits num hden k).2 hunits hdistance)
    · have hle := (distance_roundedUnits num hden k).1
      omega

/-! ## Fractions in range -/

theorem le_roundHalfEven {k : Nat} (hden : 0 < den) (h : k * den ≤ num) :
    k ≤ roundHalfEven num den := by
  have hquotient : k ≤ num / den := (Nat.le_div_iff_mul_le hden).2 h
  simp only [roundHalfEven]
  split_ifs <;> omega

theorem roundHalfEven_le {k : Nat} (h : num < k * den) : roundHalfEven num den ≤ k := by
  have hquotient : num / den < k := Nat.div_lt_of_lt_mul (by rwa [Nat.mul_comm] at h)
  have hparity := Nat.mod_two_eq_zero_or_one (num / den)
  simp only [roundHalfEven]
  split_ifs <;> omega

/-- What is rounded has at most the bits of a mantissa. -/
theorem roundedUnits_le (num : Nat) (hden : 0 < den) : roundedUnits num den ≤ twoPow 53 := by
  have hbits : num * denominator / den < 2 ^ (53 + roundingShift num den) := by
    refine Nat.lt_log2_self.trans_le (Nat.pow_le_pow_right (by decide) ?_)
    unfold roundingShift
    omega
  refine roundHalfEven_le ?_
  calc num * denominator < 2 ^ (53 + roundingShift num den) * den :=
        (Nat.div_lt_iff_lt_mul hden).1 hbits
    _ = twoPow 53 * (den * twoPow (roundingShift num den)) := by
        show _ = 2 ^ 53 * (den * 2 ^ roundingShift num den)
        ring

/-- What is shifted keeps its leading bit. -/
theorem le_roundedUnits (hden : 0 < den) (h : 0 < roundingShift num den) :
    twoPow 52 ≤ roundedUnits num den := by
  refine le_roundHalfEven (Nat.mul_pos hden (twoPow_pos _)) ?_
  have hle := le_of_roundingShift_pos hden h
  rwa [Nat.mul_assoc, Nat.mul_comm (twoPow _) den] at hle

theorem ofParts?_eq_some {mantissa shift : Nat} (hmantissa : mantissa < twoPow 53)
    (hshift : shift ≤ 2045) (hnormal : shift = 0 ∨ twoPow 52 ≤ mantissa) :
    ∃ m, ofParts? mantissa shift = some m := by
  unfold ofParts?
  rw [dif_pos ⟨hmantissa, hshift, hnormal⟩]
  exact ⟨_, rfl⟩

/-- A fraction below a power of two has no more bits than that, and `j` more after `j` doublings. -/
theorem log2_scaled_le {k j : Nat} (hden : 0 < den) (h : num < twoPow k * den) :
    Nat.log2 (num * twoPow j / den) ≤ k + j := by
  have hscaled : num * twoPow j / den < 2 ^ (k + j) := by
    rw [Nat.div_lt_iff_lt_mul hden, Nat.pow_add]
    calc num * twoPow j < twoPow k * den * twoPow j := Nat.mul_lt_mul_of_pos_right h (twoPow_pos j)
      _ = twoPow k * twoPow j * den := Nat.mul_right_comm _ _ _
  by_cases hzero : num * twoPow j / den = 0
  · rw [hzero, Nat.log2_zero]
    exact Nat.zero_le _
  · exact ((Nat.log2_lt hzero).2 hscaled).le

/-- A fraction that is not too large is rounded to a magnitude. -/
theorem exists_ofRatio? {k : Nat} (hk : k ≤ 1022) (hden : 0 < den) (h : num < twoPow k * den) :
    ∃ m, ofRatio? num den = some m := by
  have hshift : roundingShift num den ≤ 2044 := by
    have hlog : Nat.log2 (num * denominator / den) ≤ k + 1074 := by
      unfold denominator
      exact log2_scaled_le hden h
    unfold roundingShift
    omega
  rw [ofRatio?_eq]
  by_cases hfull : roundedUnits num den = twoPow 53
  · rw [if_pos hfull]
    exact ofParts?_eq_some (by decide) (by omega) (.inr (Nat.le_refl _))
  · rw [if_neg hfull]
    have hle := roundedUnits_le num hden
    refine ofParts?_eq_some (Nat.lt_of_le_of_ne hle hfull) (by omega) ?_
    rcases Nat.eq_zero_or_pos (roundingShift num den) with hnone | hsome
    · exact .inl hnone
    · exact .inr (le_roundedUnits hden hsome)

theorem value_zero : zero.value = 0 := by
  have hnumerator : zero.numerator = 0 := Nat.zero_mul _
  rw [value, hnumerator, Nat.cast_zero, zero_div]

theorem value_nonneg (m : Magnitude) : 0 ≤ m.value :=
  div_nonneg (Nat.cast_nonneg _) (Nat.cast_nonneg _)

end Magnitude

namespace Double

/-- The number that a finite double is. -/
def toRat? : Double → Option ℚ
  | .finite true size => some (-size.value)
  | .finite false size => some size.value
  | _ => none

/-- The double is finite, no finite double is nearer to the number, and of two equally near ones it
is the one with the even mantissa. -/
def IsNearest (d : Double) (x : ℚ) : Prop :=
  ∃ negative size v, d = .finite negative size ∧ d.toRat? = some v ∧
    ∀ (e : Double) (w : ℚ), e.toRat? = some w →
      |v - x| ≤ |w - x| ∧ (w ≠ v → |v - x| = |w - x| → size.mantissa % 2 = 0)

/-- Among numbers that are not negative, the nearest magnitude is the nearest double. -/
theorem isNearest_of_size {size : Magnitude} {x : ℚ} (hx : 0 ≤ x) (h : size.IsNearest x) :
    (finite false size).IsNearest x := by
  refine ⟨false, size, size.value, rfl, rfl, fun e w he => ?_⟩
  obtain ⟨n, hn⟩ : ∃ n : Magnitude, w = n.value ∨ w = -n.value := by
    cases e with
    | finite negative n =>
      cases negative with
      | false => exact ⟨n, .inl (Option.some.inj he).symm⟩
      | true => exact ⟨n, .inr (Option.some.inj he).symm⟩
    | infinite negative => cases he
    | nan => cases he
  rcases hn with rfl | rfl
  · exact ⟨h.le n, h.even n⟩
  · -- A negative number is further away than the same number without the sign.
    have hn := n.value_nonneg
    have hsize := size.value_nonneg
    have hfar : |-n.value - x| = n.value + x := by
      rw [← abs_neg, neg_sub, sub_neg_eq_add, add_comm, abs_of_nonneg (add_nonneg hn hx)]
    have hle : |n.value - x| ≤ n.value + x := by
      rw [abs_le]
      constructor <;> linarith
    rw [hfar]
    refine ⟨(h.le n).trans hle, fun hne heq => ?_⟩
    have heq' : |size.value - x| = |n.value - x| := le_antisymm (h.le n) (heq ▸ hle)
    refine h.even n (fun hsame => hne ?_) heq'
    -- Otherwise the two differ by their signs, and both are as far away as zero.
    have hzero : size.value ≤ 0 := by
      have hmin := h.le Magnitude.zero
      rw [heq, hsame, Magnitude.value_zero, zero_sub, abs_neg, abs_of_nonneg hx] at hmin
      linarith
    linarith

/-- A natural number that is not too large is rounded to the nearest double. -/
theorem ofNat_isNearest {n k : Nat} (hk : k ≤ 1022) (h : n < twoPow k) : (ofNat n).IsNearest n := by
  have hbound : n < twoPow k * 1 := by rwa [Nat.mul_one]
  obtain ⟨m, hm⟩ := Magnitude.exists_ofRatio? hk Nat.one_pos hbound
  have hnearest := Magnitude.isNearest_of_ofRatio? Nat.one_pos hm
  rw [Nat.cast_one, div_one] at hnearest
  rw [ofNat, ofRatio, hm, ofSize?]
  exact isNearest_of_size (Nat.cast_nonneg n) hnearest

end Double

end ScriptOutline
