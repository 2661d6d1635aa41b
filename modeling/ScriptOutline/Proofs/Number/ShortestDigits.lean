import Mathlib.Algebra.Order.Field.Power
import Mathlib.Data.List.DropRight
import Mathlib.Tactic.NormNum
import ScriptOutline.Number.Shortest
import ScriptOutline.Proofs.Json.NumberText
import ScriptOutline.Proofs.Number.Exact
import ScriptOutline.Proofs.Number.Nearest

/-!
# The digits of a double

The search for the shortest decimal tries ever finer grids. It ends before its steps run out: the
grid of the eighteenth step is finer than a quarter of the distance between neighbouring magnitudes,
so the multiple below the value reads back (`exists_onGrid?`). This rests on the first grid being
the power of ten of the value's first digit or a finer one (`tenPow_leadingExponent_le`). It is not
much finer either (`lt_tenPow_leadingExponent`), so that the digits are no more than eighteen
(`exists_search`).

So the digits are those of a positive number, and the first and the last one are not zero
(`isNormal_shortest`).
-/

namespace ScriptOutline

namespace Scientific

/-- The digits are decimal digits, and neither the first nor the last one is a superfluous zero. -/
structure IsNormal (s : Scientific) : Prop where
  isDigit : ∀ c ∈ s.digits, c.isDigit = true
  first : ∃ c cs, s.digits = c :: cs ∧ c ≠ '0'
  last : ∀ c ∈ s.digits.getLast?, c ≠ '0'

/-! ## Fractions -/

theorem ratioLe_iff {a b c d : Nat} (hb : 0 < b) (hd : 0 < d) :
    ratioLe a b c d = true ↔ (a : ℚ) / b ≤ c / d := by
  have hb' : (0 : ℚ) < b := by exact_mod_cast hb
  have hd' : (0 : ℚ) < d := by exact_mod_cast hd
  rw [ratioLe, decide_eq_true_eq, div_le_div_iff₀ hb' hd']
  exact_mod_cast Iff.rfl

theorem ratioLt_iff {a b c d : Nat} (hb : 0 < b) (hd : 0 < d) :
    ratioLt a b c d = true ↔ (a : ℚ) / b < c / d := by
  have hb' : (0 : ℚ) < b := by exact_mod_cast hb
  have hd' : (0 : ℚ) < d := by exact_mod_cast hd
  rw [ratioLt, decide_eq_true_eq, div_lt_div_iff₀ hb' hd']
  exact_mod_cast Iff.rfl

theorem unitRatio_pos (e : Int) : 0 < (unitRatio e).1 ∧ 0 < (unitRatio e).2 := by
  unfold unitRatio
  split
  · exact ⟨Nat.one_pos, Nat.pow_pos (by decide)⟩
  · exact ⟨Nat.pow_pos (by decide), Nat.one_pos⟩

theorem cast_tenPow (n : Nat) : (tenPow n : ℚ) = 10 ^ n := by
  show ((10 ^ n : ℕ) : ℚ) = 10 ^ n
  rw [Nat.cast_pow, Nat.cast_ofNat]

/-- The fraction is the power of ten. -/
theorem unitRatio_eq (e : Int) : ((unitRatio e).1 : ℚ) / (unitRatio e).2 = 10 ^ e := by
  by_cases hneg : e < 0
  · obtain ⟨n, rfl⟩ : ∃ n : ℕ, e = -n := ⟨(-e).toNat, by omega⟩
    have hexp : (- -(n : ℤ)).toNat = n := by omega
    rw [unitRatio, if_pos hneg, hexp, cast_tenPow, zpow_neg, zpow_natCast, Nat.cast_one, one_div]
  · obtain ⟨n, rfl⟩ : ∃ n : ℕ, e = n := ⟨e.toNat, by omega⟩
    rw [unitRatio, if_neg hneg, Int.toNat_natCast, cast_tenPow, zpow_natCast, Nat.cast_one, div_one]

/-! ## The power of ten of the first digit -/

theorem raiseExponent_succ (num den fuel : Nat) (e : Int) :
    raiseExponent num den (fuel + 1) e =
      if ratioLe (unitRatio (e + 1)).1 (unitRatio (e + 1)).2 num den = true
      then raiseExponent num den fuel (e + 1) else e := rfl

/-- Raising an exponent as long as its power is not too large keeps that. -/
theorem tenPow_raiseExponent_le {num den : Nat} (hden : 0 < den) (fuel : Nat) {e : Int}
    (h : (10 : ℚ) ^ e ≤ num / den) : (10 : ℚ) ^ raiseExponent num den fuel e ≤ num / den := by
  induction fuel generalizing e with
  | zero => exact h
  | succ fuel ih =>
    rw [raiseExponent_succ]
    by_cases hle : ratioLe (unitRatio (e + 1)).1 (unitRatio (e + 1)).2 num den = true
    · rw [if_pos hle]
      rw [ratioLe_iff (unitRatio_pos _).2 hden, unitRatio_eq] at hle
      exact ih hle
    · rw [if_neg hle]
      exact h

/-- Raising an exponent ends just below the fraction if there are enough steps. -/
theorem lt_tenPow_raiseExponent {num den : Nat} (hden : 0 < den) (fuel : Nat) {e : Int}
    (h : (num : ℚ) / den < 10 ^ (e + fuel + 1)) :
    (num : ℚ) / den < 10 ^ (raiseExponent num den fuel e + 1) := by
  induction fuel generalizing e with
  | zero => simpa [raiseExponent] using h
  | succ fuel ih =>
    rw [raiseExponent_succ]
    by_cases hle : ratioLe (unitRatio (e + 1)).1 (unitRatio (e + 1)).2 num den = true
    · rw [if_pos hle]
      refine ih ?_
      rwa [add_right_comm e, add_assoc e]
    · rw [if_neg hle]
      rw [ratioLe_iff (unitRatio_pos _).2 hden, unitRatio_eq, not_le] at hle
      exact hle

/-- Powers of ten and of two compare as their exponents do, given a power of ten that is near a
power of two. -/
theorem tenPow_le_twoPow_of {a b : Nat} {e k : Int} (ha : a ≠ 0) (hexp : e * a ≤ b * k)
    (hnear : ((10 : ℚ) ^ b) ^ k ≤ (2 ^ a) ^ k) : (10 : ℚ) ^ e ≤ 2 ^ k := by
  have hten : (0 : ℚ) ≤ 10 ^ e := by positivity
  have htwo : (0 : ℚ) ≤ 2 ^ k := by positivity
  rw [← pow_le_pow_iff_left₀ hten htwo ha]
  calc ((10 : ℚ) ^ e) ^ a = 10 ^ (e * a) := by rw [zpow_mul, zpow_natCast]
    _ ≤ 10 ^ (b * k : ℤ) := zpow_le_zpow_right₀ (by norm_num) hexp
    _ = (10 ^ b) ^ k := by rw [zpow_mul, zpow_natCast]
    _ ≤ (2 ^ a) ^ k := hnear
    _ = (2 ^ k) ^ a := by rw [← zpow_natCast, ← zpow_natCast, ← zpow_mul, ← zpow_mul, mul_comm]

theorem twoPow_le_tenPow_of {a b : Nat} {e k : Int} (ha : a ≠ 0) (hexp : b * k ≤ e * a)
    (hnear : ((2 : ℚ) ^ a) ^ k ≤ (10 ^ b) ^ k) : (2 : ℚ) ^ k ≤ 10 ^ e := by
  have hten : (0 : ℚ) ≤ 10 ^ e := by positivity
  have htwo : (0 : ℚ) ≤ 2 ^ k := by positivity
  rw [← pow_le_pow_iff_left₀ htwo hten ha]
  calc ((2 : ℚ) ^ k) ^ a = (2 ^ a) ^ k := by
        rw [← zpow_natCast, ← zpow_natCast, ← zpow_mul, ← zpow_mul, mul_comm]
    _ ≤ (10 ^ b) ^ k := hnear
    _ = 10 ^ (b * k : ℤ) := by rw [zpow_mul, zpow_natCast]
    _ ≤ 10 ^ (e * a) := zpow_le_zpow_right₀ (by norm_num) hexp
    _ = (10 ^ e) ^ a := by rw [zpow_mul, zpow_natCast]

/-- A decimal logarithm from a binary one. Its factor is a little too large, which the step down
makes up for. -/
theorem tenPow_le_twoPow {k : Int} (hlow : -20000 ≤ k) (hhigh : k ≤ 20000) :
    (10 : ℚ) ^ (Int.fdiv (k * 30103) 100000 - 1) ≤ 2 ^ k := by
  rw [Int.fdiv_eq_ediv_of_nonneg _ (by decide)]
  rcases Int.lt_or_le k 0 with hneg | hpos
  · obtain ⟨j, rfl⟩ : ∃ j : ℕ, k = -j := ⟨(-k).toNat, by omega⟩
    have hexp : (-(j : ℤ) * 30103 / 100000 - 1) * (93 : ℕ) ≤ (28 : ℕ) * -(j : ℤ) := by omega
    refine tenPow_le_twoPow_of (by decide) hexp ?_
    have hnear : ((2 : ℚ) ^ 93) ^ j ≤ (10 ^ 28) ^ j :=
      pow_le_pow_left₀ (by positivity) (by norm_num) j
    rw [zpow_neg, zpow_neg, zpow_natCast, zpow_natCast]
    exact inv_anti₀ (by positivity) hnear
  · have hexp : (k * 30103 / 100000 - 1) * (196 : ℕ) ≤ (59 : ℕ) * k := by omega
    refine tenPow_le_twoPow_of (by decide) hexp ?_
    exact zpow_le_zpow_left₀ hpos (by positivity) (by norm_num)

/-- The same logarithm from above. -/
theorem twoPow_le_tenPow {k : Int} (hlow : -20000 ≤ k) (hhigh : k ≤ 20000) :
    (2 : ℚ) ^ k ≤ 10 ^ (Int.fdiv (k * 30103) 100000 + 2) := by
  rw [Int.fdiv_eq_ediv_of_nonneg _ (by decide)]
  rcases Int.lt_or_le k 0 with hneg | hpos
  · obtain ⟨j, rfl⟩ : ∃ j : ℕ, k = -j := ⟨(-k).toNat, by omega⟩
    have hexp : (59 : ℕ) * -(j : ℤ) ≤ (-(j : ℤ) * 30103 / 100000 + 2) * (196 : ℕ) := by omega
    refine twoPow_le_tenPow_of (by decide) hexp ?_
    have hnear : ((10 : ℚ) ^ 59) ^ j ≤ (2 ^ 196) ^ j :=
      pow_le_pow_left₀ (by positivity) (by norm_num) j
    rw [zpow_neg, zpow_neg, zpow_natCast, zpow_natCast]
    exact inv_anti₀ (by positivity) hnear
  · have hexp : (28 : ℕ) * k ≤ (k * 30103 / 100000 + 2) * (93 : ℕ) := by omega
    refine twoPow_le_tenPow_of (by decide) hexp ?_
    exact zpow_le_zpow_left₀ hpos (by positivity) (by norm_num)

/-- The number of bits of a fraction tells a power of two that it reaches. -/
theorem twoPow_le_ratio {num den : Nat} (hnum : 0 < num) (hden : 0 < den) :
    (2 : ℚ) ^ ((Nat.log2 num : Int) - Nat.log2 den - 1) ≤ num / den := by
  have hd : (0 : ℚ) < den := by exact_mod_cast hden
  have hlow : (2 : ℚ) ^ Nat.log2 num ≤ num := by
    exact_mod_cast Nat.log2_self_le (Nat.pos_iff_ne_zero.1 hnum)
  have hhigh : (den : ℚ) ≤ 2 ^ (Nat.log2 den + 1) := by
    exact_mod_cast (Nat.lt_log2_self).le
  have hexp : (Nat.log2 num : Int) - Nat.log2 den - 1 =
      (Nat.log2 num : Int) - (Nat.log2 den + 1 : ℕ) := by
    omega
  rw [hexp, zpow_sub₀ (by norm_num), zpow_natCast, zpow_natCast]
  exact div_le_div₀ (by positivity) hlow hd hhigh

/-- The number of bits of a fraction tells a power of two that it does not reach. -/
theorem ratio_lt_twoPow {num den : Nat} (hden : 0 < den) :
    (num : ℚ) / den < 2 ^ ((Nat.log2 num : Int) - Nat.log2 den + 1) := by
  have hhigh : (num : ℚ) < 2 ^ (Nat.log2 num + 1) := by
    exact_mod_cast Nat.lt_log2_self
  have hlow : (2 : ℚ) ^ Nat.log2 den ≤ den := by
    exact_mod_cast Nat.log2_self_le (Nat.pos_iff_ne_zero.1 hden)
  have hexp : (Nat.log2 num : Int) - Nat.log2 den + 1 =
      (Nat.log2 num + 1 : ℕ) - (Nat.log2 den : Int) := by
    omega
  rw [hexp, zpow_sub₀ (by norm_num), zpow_natCast, zpow_natCast]
  exact div_lt_div₀ hhigh hlow (by positivity) (by positivity)

/-- The leading exponent is not too large for a fraction whose bits are few enough. -/
theorem tenPow_leadingExponent_le {num den : Nat} (hnum : 0 < num) (hden : 0 < den)
    (hbits : Nat.log2 num ≤ 10000) (hbits' : Nat.log2 den ≤ 10000) :
    (10 : ℚ) ^ leadingExponent num den ≤ num / den := by
  refine tenPow_raiseExponent_le hden 5 ?_
  exact (tenPow_le_twoPow (by omega) (by omega)).trans (twoPow_le_ratio hnum hden)

/-- The leading exponent is not too small either. -/
theorem lt_tenPow_leadingExponent {num den : Nat} (hden : 0 < den) (hbits : Nat.log2 num ≤ 10000)
    (hbits' : Nat.log2 den ≤ 10000) : (num : ℚ) / den < 10 ^ (leadingExponent num den + 1) := by
  refine lt_tenPow_raiseExponent hden 5 ?_
  generalize hk : (Nat.log2 num : Int) - Nat.log2 den = bits
  have hlogarithm := twoPow_le_tenPow (k := bits - 1) (by omega) (by omega)
  calc (num : ℚ) / den < 2 ^ (bits + 1) := hk ▸ ratio_lt_twoPow hden
    _ = 2 ^ (bits - 1) * 4 := by
        rw [← sub_add_cancel bits 1, add_sub_cancel_right, add_assoc, zpow_add₀ (by norm_num)]
        norm_num
    _ ≤ 10 ^ (Int.fdiv ((bits - 1) * 30103) 100000 + 2) * 10 ^ (3 : ℤ) :=
        mul_le_mul hlogarithm (by norm_num) (by norm_num) (by positivity)
    _ = 10 ^ (Int.fdiv ((bits - 1) * 30103) 100000 - 1 + (5 : ℕ) + 1) := by
        rw [← zpow_add₀ (by norm_num)]
        congr 1
        push_cast
        ring

end Scientific

/-! ## Reading back -/

namespace Magnitude

open Scientific (interval ratioLe_iff ratioLt_iff)

/-- The lower end of the interval around a magnitude. -/
def lowEnd (m : Magnitude) : ℚ := (interval m).1 / (4 * denominator : ℕ)

/-- The upper end of the interval around a magnitude. -/
def highEnd (m : Magnitude) : ℚ := (interval m).2.1 / (4 * denominator : ℕ)

/-- The number lies in the interval around the magnitude, whose ends belong to it if the mantissa is
even. -/
structure Attracts (m : Magnitude) (x : ℚ) : Prop where
  low : m.lowEnd ≤ x
  high : x ≤ m.highEnd
  ends : m.mantissa % 2 = 0 ∨ m.lowEnd < x ∧ x < m.highEnd

theorem quarters_pos : 0 < 4 * denominator := Nat.mul_pos (by decide) denominator_pos

/-- A multiple of a power of ten reads back as a magnitude if it lies in its interval. -/
theorem reads_iff {m : Magnitude} {c : Nat} {unit : Int} :
    Scientific.reads m c unit = true ↔ m.Attracts (c * 10 ^ unit) := by
  obtain ⟨hp, hq⟩ := Scientific.unitRatio_pos unit
  have hunit : ((c * (Scientific.unitRatio unit).1 : ℕ) : ℚ) / (Scientific.unitRatio unit).2 =
      c * 10 ^ unit := by
    rw [← Scientific.unitRatio_eq, Nat.cast_mul, mul_div_assoc]
  have hreads : Scientific.reads m c unit =
      if m.mantissa % 2 == 0 then
        Scientific.ratioLe (interval m).1 (4 * denominator) (c * (Scientific.unitRatio unit).1)
            (Scientific.unitRatio unit).2 &&
          Scientific.ratioLe (c * (Scientific.unitRatio unit).1) (Scientific.unitRatio unit).2
            (interval m).2.1 (4 * denominator)
      else
        Scientific.ratioLt (interval m).1 (4 * denominator) (c * (Scientific.unitRatio unit).1)
            (Scientific.unitRatio unit).2 &&
          Scientific.ratioLt (c * (Scientific.unitRatio unit).1) (Scientific.unitRatio unit).2
            (interval m).2.1 (4 * denominator) := rfl
  rw [hreads]
  by_cases heven : m.mantissa % 2 = 0
  · rw [if_pos (beq_iff_eq.2 heven), Bool.and_eq_true, ratioLe_iff quarters_pos hq,
      ratioLe_iff hq quarters_pos, hunit]
    exact ⟨fun h => ⟨h.1, h.2, .inl heven⟩, fun h => ⟨h.low, h.high⟩⟩
  · rw [if_neg (mt beq_iff_eq.1 heven), Bool.and_eq_true, ratioLt_iff quarters_pos hq,
      ratioLt_iff hq quarters_pos, hunit]
    exact ⟨fun h => ⟨h.1.le, h.2.le, .inr h⟩, fun h => h.ends.resolve_left heven⟩

end Magnitude

namespace Scientific

variable {m : Magnitude}

/-- The distance between a magnitude and the next one. -/
def gap (m : Magnitude) : ℚ := twoPow m.shift / Magnitude.denominator

theorem value_eq_mul_gap (m : Magnitude) : m.value = m.mantissa * gap m := by
  rw [Magnitude.value, Magnitude.numerator, gap, Nat.cast_mul, mul_div_assoc]

theorem gap_pos (m : Magnitude) : 0 < gap m := by
  have hshift : (0 : ℚ) < twoPow m.shift := by exact_mod_cast Magnitude.twoPow_pos m.shift
  have hden : (0 : ℚ) < Magnitude.denominator := by exact_mod_cast Magnitude.denominator_pos
  exact div_pos hshift hden

/-- The multiples of the fourth part of the gap, as fractions. -/
theorem quarters_eq (m : Magnitude) (k : Nat) :
    ((k * twoPow m.shift : ℕ) : ℚ) / (4 * Magnitude.denominator : ℕ) = k * (gap m / 4) := by
  rw [gap]
  push_cast
  ring

/-- The lower end of what reads back is a quarter of the gap below the magnitude or further, even
where the gap to the magnitude below is half as wide. -/
theorem lowEnd_le (hm : 0 < m.mantissa) : m.lowEnd ≤ m.value - gap m / 4 := by
  obtain ⟨b, hb, hb', hinterval⟩ : ∃ b : ℕ, 1 ≤ b ∧ b ≤ 2 ∧
      (interval m).1 = (4 * m.mantissa - b) * twoPow m.shift := by
    unfold interval
    split
    · exact ⟨1, by decide, by decide, rfl⟩
    · exact ⟨2, by decide, by decide, rfl⟩
  have hone : (1 : ℚ) ≤ b := by exact_mod_cast hb
  have hcast : ((4 * m.mantissa - b : ℕ) : ℚ) = 4 * m.mantissa - b := by
    rw [Nat.cast_sub (by omega), Nat.cast_mul, Nat.cast_ofNat]
  have hgap := gap_pos m
  have hquarter : 1 * (gap m / 4) ≤ b * (gap m / 4) :=
    mul_le_mul_of_nonneg_right hone (by linarith)
  rw [Magnitude.lowEnd, hinterval, quarters_eq, value_eq_mul_gap, hcast, sub_mul]
  linarith

/-- The lower end of what reads back is at most half the gap below the magnitude. -/
theorem le_lowEnd (m : Magnitude) : m.value - gap m / 2 ≤ m.lowEnd := by
  obtain ⟨b, hb, hinterval⟩ : ∃ b : ℕ, b ≤ 2 ∧
      (interval m).1 = (4 * m.mantissa - b) * twoPow m.shift := by
    unfold interval
    split
    · exact ⟨1, by decide, rfl⟩
    · exact ⟨2, by decide, rfl⟩
  have hcast : (4 * m.mantissa : ℚ) ≤ (4 * m.mantissa - b : ℕ) + 2 := by
    exact_mod_cast (show 4 * m.mantissa ≤ 4 * m.mantissa - b + 2 by omega)
  have hquarter : 0 ≤ gap m / 4 := by linarith [gap_pos m]
  have hscaled := mul_le_mul_of_nonneg_right hcast hquarter
  rw [Magnitude.lowEnd, hinterval, quarters_eq, value_eq_mul_gap]
  linarith

/-- The upper end of what reads back is half the gap above the magnitude. -/
theorem highEnd_eq (m : Magnitude) : m.highEnd = m.value + gap m / 2 := by
  have hinterval : (interval m).2.1 = (4 * m.mantissa + 2) * twoPow m.shift := rfl
  rw [Magnitude.highEnd, hinterval, quarters_eq, value_eq_mul_gap]
  push_cast
  ring

/-- What is close enough to a magnitude reads back as it. -/
theorem reads_of_near {c : Nat} {unit : Int} (hm : 0 < m.mantissa)
    (hlow : m.value - gap m / 4 < c * 10 ^ unit) (hhigh : c * 10 ^ unit < m.value + gap m / 2) :
    reads m c unit = true := by
  have hbelow := (lowEnd_le hm).trans_lt hlow
  rw [← highEnd_eq] at hhigh
  exact Magnitude.reads_iff.2 ⟨hbelow.le, hhigh.le, .inr ⟨hbelow, hhigh⟩⟩

/-- What lies in the interval of a magnitude is at most half a gap away from it. -/
theorem near_of_attracts {x : ℚ} (h : m.Attracts x) :
    m.value - gap m / 2 ≤ x ∧ x ≤ m.value + gap m / 2 :=
  ⟨(le_lowEnd m).trans h.low, h.high.trans_eq (highEnd_eq m)⟩

/-! ## The search -/

/-- The multiple of a grid unit below a magnitude, counted in units. -/
def multipleBelow (m : Magnitude) (unit : Int) : Nat :=
  m.numerator * (unitRatio unit).2 / (Magnitude.denominator * (unitRatio unit).1)

/-- The magnitude lies between this multiple and the next one. -/
theorem multipleBelow_spec (m : Magnitude) (unit : Int) :
    (multipleBelow m unit : ℚ) * 10 ^ unit ≤ m.value ∧
      m.value < ((multipleBelow m unit : ℚ) + 1) * 10 ^ unit := by
  obtain ⟨hp, hq⟩ := unitRatio_pos unit
  have hprod : 0 < Magnitude.denominator * (unitRatio unit).1 :=
    Nat.mul_pos Magnitude.denominator_pos hp
  have hle : multipleBelow m unit * (Magnitude.denominator * (unitRatio unit).1) ≤
      m.numerator * (unitRatio unit).2 := Nat.div_mul_le_self _ _
  have hlt : m.numerator * (unitRatio unit).2 <
      (multipleBelow m unit + 1) * (Magnitude.denominator * (unitRatio unit).1) := by
    rw [Nat.add_mul, Nat.one_mul]
    exact Nat.lt_div_mul_add hprod
  have hd : (0 : ℚ) < Magnitude.denominator := by exact_mod_cast Magnitude.denominator_pos
  have hq' : (0 : ℚ) < (unitRatio unit).2 := by exact_mod_cast hq
  rw [← unitRatio_eq, Magnitude.value, ← mul_div_assoc, ← mul_div_assoc, div_le_div_iff₀ hq' hd,
    div_lt_div_iff₀ hd hq']
  constructor
  · calc (multipleBelow m unit : ℚ) * (unitRatio unit).1 * Magnitude.denominator
        = (multipleBelow m unit * (Magnitude.denominator * (unitRatio unit).1) : ℕ) := by
          push_cast
          ring
      _ ≤ (m.numerator * (unitRatio unit).2 : ℕ) := by exact_mod_cast hle
      _ = m.numerator * (unitRatio unit).2 := Nat.cast_mul _ _
  · calc (m.numerator : ℚ) * (unitRatio unit).2
        = (m.numerator * (unitRatio unit).2 : ℕ) := (Nat.cast_mul _ _).symm
      _ < ((multipleBelow m unit + 1) * (Magnitude.denominator * (unitRatio unit).1) : ℕ) := by
          exact_mod_cast hlt
      _ = ((multipleBelow m unit : ℚ) + 1) * (unitRatio unit).1 * Magnitude.denominator := by
          push_cast
          ring

theorem onGrid?_eq (tie : Tie) (m : Magnitude) (unit : Int) :
    onGrid? tie m unit =
      match reads m (multipleBelow m unit) unit && 0 < multipleBelow m unit,
        reads m (multipleBelow m unit + 1) unit with
      | false, false => none
      | true, false => some (multipleBelow m unit)
      | false, true => some (multipleBelow m unit + 1)
      | true, true =>
        let twice := 2 * (m.numerator * (unitRatio unit).2 %
          (Magnitude.denominator * (unitRatio unit).1))
        if twice < Magnitude.denominator * (unitRatio unit).1 then some (multipleBelow m unit)
        else if Magnitude.denominator * (unitRatio unit).1 < twice then
          some (multipleBelow m unit + 1)
        else match tie with
          | .up => some (multipleBelow m unit + 1)
          | .even =>
            some (if multipleBelow m unit % 2 = 0 then multipleBelow m unit
              else multipleBelow m unit + 1) := rfl

/-- The multiple that is chosen is one of the two around the magnitude. It is positive and reads
back. -/
theorem onGrid?_eq_some {tie : Tie} {unit : Int} {c : Nat} (h : onGrid? tie m unit = some c) :
    (c = multipleBelow m unit ∨ c = multipleBelow m unit + 1) ∧ 0 < c ∧
      reads m c unit = true := by
  have hbelow (hreads : (reads m (multipleBelow m unit) unit && 0 < multipleBelow m unit) = true) :
      0 < multipleBelow m unit ∧ reads m (multipleBelow m unit) unit = true :=
    ⟨of_decide_eq_true (Bool.and_eq_true_iff.1 hreads).2, (Bool.and_eq_true_iff.1 hreads).1⟩
  rw [onGrid?_eq] at h
  split at h
  · cases h
  · next hreads _ =>
    obtain rfl := Option.some.inj h
    exact ⟨.inl rfl, hbelow hreads⟩
  · next hreads =>
    obtain rfl := Option.some.inj h
    exact ⟨.inr rfl, Nat.succ_pos _, hreads⟩
  · next hreads hreads' =>
    have hchoice : c = multipleBelow m unit ∨ c = multipleBelow m unit + 1 := by
      generalize multipleBelow m unit = below at h
      cases tie <;> simp only at h <;> split_ifs at h <;> obtain rfl := Option.some.inj h <;> simp
    refine ⟨hchoice, ?_⟩
    rcases hchoice with rfl | rfl
    · exact hbelow hreads
    · exact ⟨Nat.succ_pos _, hreads'⟩

/-- If the multiple below a magnitude is positive and reads back, one is chosen. -/
theorem onGrid?_ne_none {tie : Tie} {unit : Int}
    (hreads : reads m (multipleBelow m unit) unit = true) (hpos : 0 < multipleBelow m unit) :
    onGrid? tie m unit ≠ none := by
  rw [onGrid?_eq, hreads, decide_eq_true hpos]
  generalize multipleBelow m unit = below
  intro hnone
  split at hnone
  · next hfalse _ => cases hfalse
  · cases hnone
  · cases hnone
  · cases tie <;> simp only at hnone <;> split_ifs at hnone

theorem numerator_pos (hm : 0 < m.mantissa) : 0 < m.numerator :=
  Nat.mul_pos hm (Magnitude.twoPow_pos m.shift)

theorem log2_numerator_le (m : Magnitude) : Nat.log2 m.numerator ≤ 10000 := by
  have hlog := m.log2_numerator
  have hshift := m.shift_le
  omega

theorem log2_twoPow_le {n bound : Nat} (h : n ≤ bound) : Nat.log2 (twoPow n) ≤ bound :=
  (Nat.log2_two_pow).trans_le h

theorem log2_denominator_le : Nat.log2 Magnitude.denominator ≤ 10000 := by
  unfold Magnitude.denominator
  exact log2_twoPow_le (by decide)

/-- The grid of the eighteenth step has a multiple that reads back. -/
theorem exists_onGrid? (tie : Tie) (hm : 0 < m.mantissa) :
    onGrid? tie m (leadingExponent m.numerator Magnitude.denominator - 17) ≠ none := by
  have hfirst : (10 : ℚ) ^ leadingExponent m.numerator Magnitude.denominator ≤ m.value :=
    tenPow_leadingExponent_le (numerator_pos hm) Magnitude.denominator_pos (log2_numerator_le m)
      log2_denominator_le
  generalize leadingExponent m.numerator Magnitude.denominator = e at hfirst ⊢
  have hunit : (10 : ℚ) ^ e = 10 ^ (e - 17) * 10 ^ 17 := by
    rw [← zpow_natCast, ← zpow_add₀ (by norm_num), Nat.cast_ofNat, Int.sub_add_cancel]
  have hpositive : (0 : ℚ) < 10 ^ (e - 17) := by positivity
  obtain ⟨hle, hlt⟩ := multipleBelow_spec m (e - 17)
  -- The unit is less than a quarter of the gap, so the multiple below is that close.
  have hgap := gap_pos m
  have hfine : 4 * (10 : ℚ) ^ (e - 17) < gap m := by
    have hmantissa : (m.mantissa : ℚ) < 2 ^ 53 := by exact_mod_cast m.mantissa_lt
    have hvalue : m.value < 2 ^ 53 * gap m := by
      rw [value_eq_mul_gap]
      exact mul_lt_mul_of_pos_right hmantissa hgap
    rw [hunit] at hfirst
    linarith
  refine onGrid?_ne_none (reads_of_near hm ?_ ?_) ?_
  · linarith
  · linarith
  · by_contra hzero
    have hnone : multipleBelow m (e - 17) = 0 := by omega
    rw [hnone] at hlt
    push_cast at hlt
    linarith

/-- A search that meets a grid with a suitable multiple ends there or before. -/
theorem search_eq {tie : Tie} (fuel steps : Nat) {unit : Int} (hsteps : steps < fuel)
    (h : onGrid? tie m (unit - steps) ≠ none) :
    ∃ k ≤ steps, ∃ c, search tie m fuel unit = (c, unit - k) ∧
      onGrid? tie m (unit - k) = some c := by
  induction fuel generalizing steps unit with
  | zero => exact absurd hsteps (Nat.not_lt_zero _)
  | succ fuel ih =>
    rw [search]
    split
    · next c hfound => exact ⟨0, Nat.zero_le _, c, by simp, by simpa using hfound⟩
    · next hnone =>
      cases steps with
      | zero => exact absurd (by simpa using hnone) h
      | succ steps =>
        have hnext (k : ℕ) : unit - (k + 1 : ℕ) = unit - 1 - k := by
          push_cast
          omega
        rw [hnext] at h
        obtain ⟨k, hk, c, hsearch, hgrid⟩ := ih steps (Nat.lt_of_succ_lt_succ hsteps) h
        refine ⟨k + 1, Nat.succ_le_succ hk, c, ?_⟩
        rw [hnext]
        exact ⟨hsearch, hgrid⟩

/-- The search ends with a positive number of at most eighteen digits that reads back, or with the
next power of ten. -/
theorem exists_search (tie : Tie) (hm : 0 < m.mantissa) :
    ∃ c unit, search tie m 18 (leadingExponent m.numerator Magnitude.denominator) = (c, unit) ∧
      0 < c ∧ c ≤ 10 ^ 18 ∧ reads m c unit = true := by
  have hgrid := exists_onGrid? tie hm
  have hlast : m.value < 10 ^ (leadingExponent m.numerator Magnitude.denominator + 1) :=
    lt_tenPow_leadingExponent Magnitude.denominator_pos (log2_numerator_le m) log2_denominator_le
  generalize leadingExponent m.numerator Magnitude.denominator = e at hgrid hlast ⊢
  obtain ⟨k, hk, c, hsearch, hfound⟩ := search_eq 18 17 (by decide) hgrid
  obtain ⟨hchoice, hpos, hreads⟩ := onGrid?_eq_some hfound
  refine ⟨c, e - k, hsearch, hpos, ?_, hreads⟩
  have hunit : (10 : ℚ) ^ (e + 1) = (10 ^ (k + 1) : ℕ) * 10 ^ (e - k) := by
    rw [Nat.cast_pow, Nat.cast_ofNat, ← zpow_natCast, ← zpow_add₀ (by norm_num)]
    congr 1
    push_cast
    ring
  have hbelow : (multipleBelow m (e - k) : ℚ) < (10 ^ (k + 1) : ℕ) := by
    have hle := (multipleBelow_spec m (e - k)).1
    rw [hunit] at hlast
    exact lt_of_mul_lt_mul_right (hle.trans_lt hlast) (by positivity)
  have hlt : multipleBelow m (e - k) < 10 ^ (k + 1) := by exact_mod_cast hbelow
  have hpow : 10 ^ (k + 1) ≤ 10 ^ 18 := Nat.pow_le_pow_right (by decide) (by omega)
  omega

/-! ## The digits -/

/-- The digits of a positive number, without the zeros at their end, are a normal decimal. -/
theorem isNormal_ofGrid {multiple : Nat × Int} (hpos : 0 < multiple.1) :
    (ofGrid multiple).IsNormal := by
  obtain ⟨first, rest, hdigits, hfirst⟩ := Json.toDigits_eq_cons hpos
  have hsignificant : (ofGrid multiple).digits =
      (Nat.toDigits 10 multiple.1).rdropWhile (· == '0') := rfl
  have hstart : (ofGrid multiple).digits <+: Nat.toDigits 10 multiple.1 := by
    rw [hsignificant]
    exact List.rdropWhile_prefix _ _
  have hne : (ofGrid multiple).digits ≠ [] := by
    rw [hsignificant, Ne, List.rdropWhile_eq_nil_iff, hdigits]
    intro hall
    exact hfirst (beq_iff_eq.1 (hall first List.mem_cons_self))
  constructor
  · intro d hd
    exact Nat.isDigit_of_mem_toDigits (by decide) (by decide) (hstart.subset hd)
  · obtain ⟨d, ds, heq⟩ := List.exists_cons_of_ne_nil hne
    rw [heq, hdigits] at hstart
    obtain ⟨rfl, -⟩ := List.cons_prefix_cons.1 hstart
    exact ⟨d, ds, heq, hfirst⟩
  · intro d hd
    obtain ⟨hne', rfl⟩ := List.mem_getLast?_eq_getLast hd
    have hlast := List.rdropWhile_last_not (· == '0') (Nat.toDigits 10 multiple.1) hne'
    exact fun heq => hlast (beq_iff_eq.2 heq)

/-- The shortest decimal of a positive magnitude is normal. -/
theorem isNormal_shortest (tie : Tie) (hm : 0 < m.mantissa) : (shortest tie m).IsNormal := by
  obtain ⟨c, unit, hsearch, hpos, -⟩ := exists_search tie hm
  rw [shortest, hsearch]
  exact isNormal_ofGrid hpos

end Scientific

end ScriptOutline
