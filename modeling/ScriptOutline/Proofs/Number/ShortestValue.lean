import ScriptOutline.Proofs.Number.DisplayedNumber

/-!
# The value of the shortest decimal

The shortest decimal of a magnitude is a number that reads back as it, so it lies at most half a gap
away. It has no more than eighteen digits, its power of ten is small, and it is not larger than the
shortest decimal of the greatest magnitude: all other magnitudes are a whole gap below that one.
-/

namespace ScriptOutline

/-! ## Digits -/

/-- A row of digits is a number below the power of ten with as many zeros. -/
theorem ofDigitChars_lt {cs : List Char} (h : AreDigits cs) :
    Nat.ofDigitChars 10 cs 0 < 10 ^ cs.length := by
  induction cs with
  | nil => decide
  | cons c cs ih =>
    have hc := (Char.isDigit_iff_toNat.1 (h c List.mem_cons_self)).2
    have hrest := ih fun d hd => h d (List.mem_cons_of_mem c hd)
    have hdigit : c.toNat - '0'.toNat ≤ 9 := Nat.sub_le_of_le_add hc
    have hfirst := Nat.mul_le_mul_left (10 ^ cs.length) hdigit
    rw [Nat.ofDigitChars_cons, Nat.mul_zero, Nat.zero_add, Nat.ofDigitChars_eq_ofDigitChars_zero,
      List.length_cons, Nat.pow_succ]
    omega

/-- A row of digits that does not begin with a zero is at least the power of ten of the first one. -/
theorem le_ofDigitChars {c : Char} (hdigit : c.isDigit = true) (hzero : c ≠ '0') (cs : List Char) :
    10 ^ cs.length ≤ Nat.ofDigitChars 10 (c :: cs) 0 := by
  have hlow := (Char.isDigit_iff_toNat.1 hdigit).1
  have hne : c.toNat ≠ '0'.toNat := fun heq => hzero (Char.toNat_inj.1 heq)
  have hfirst : 1 ≤ c.toNat - '0'.toNat := by omega
  rw [Nat.ofDigitChars_cons, Nat.mul_zero, Nat.zero_add, Nat.ofDigitChars_eq_ofDigitChars_zero]
  exact Nat.le_add_right_of_le (Nat.le_mul_of_pos_right _ hfirst)

namespace Scientific

variable {s : Scientific} {m : Magnitude}

/-- The power of ten is that of the first digit. -/
theorem IsNormal.value_bounds (h : s.IsNormal) :
    (10 : ℚ) ^ s.exponent ≤ s.value ∧ s.value < 10 ^ (s.exponent + 1) := by
  obtain ⟨c, cs, hdigits, hzero⟩ := h.first
  have hpositive : (0 : ℚ) < 10 ^ (s.exponent + 1 - s.digits.length) := by positivity
  have hlow : ((10 ^ cs.length : ℕ) : ℚ) ≤ Nat.ofDigitChars 10 s.digits 0 := by
    rw [hdigits]
    exact_mod_cast le_ofDigitChars (h.isDigit c (by simp [hdigits])) hzero cs
  have hhigh : (Nat.ofDigitChars 10 s.digits 0 : ℚ) < (10 ^ s.digits.length : ℕ) := by
    exact_mod_cast ofDigitChars_lt h.isDigit
  have hlength : s.digits.length = cs.length + 1 := by rw [hdigits, List.length_cons]
  have hshift (k : ℕ) : (10 : ℚ) ^ (k + (s.exponent + 1 - s.digits.length)) =
      (10 ^ k : ℕ) * 10 ^ (s.exponent + 1 - s.digits.length) := by
    rw [zpow_add₀ (by norm_num), zpow_natCast, Nat.cast_pow, Nat.cast_ofNat]
  constructor
  · have hexp : s.exponent = cs.length + (s.exponent + 1 - s.digits.length) := by omega
    rw [hexp, hshift, value]
    exact mul_le_mul_of_nonneg_right hlow hpositive.le
  · have hexp : s.exponent + 1 = s.digits.length + (s.exponent + 1 - s.digits.length) := by omega
    rw [hexp, hshift, value]
    exact mul_lt_mul_of_pos_right hhigh hpositive

/-- Only zeros are taken off the end of the digits. -/
theorem toDigits_eq_significant (c : Nat) :
    ∃ zeros, Nat.toDigits 10 c = significant c ++ List.replicate zeros '0' := by
  have hsplit : (Nat.toDigits 10 c).rdropWhile (· == '0') ++
      (Nat.toDigits 10 c).rtakeWhile (· == '0') = Nat.toDigits 10 c :=
    List.rdropWhile_append_rtakeWhile
  have hzeros : (Nat.toDigits 10 c).rtakeWhile (· == '0') = List.replicate _ '0' :=
    List.eq_replicate_of_mem fun _ hd => eq_of_beq (List.mem_rtakeWhile_imp (p := (· == '0')) hd)
  rw [hzeros] at hsplit
  exact ⟨_, hsplit.symm⟩

/-- The decimal of a grid multiple is that multiple. -/
theorem value_ofGrid (c : Nat) (unit : Int) :
    (ofGrid (c, unit)).value = c * 10 ^ unit ∧ Nat.ofDigitChars 10 (significant c) 0 ≤ c := by
  obtain ⟨zeros, hzeros⟩ := toDigits_eq_significant c
  have hnumber : c = 10 ^ zeros * Nat.ofDigitChars 10 (significant c) 0 := by
    rw [← Nat.ofDigitChars_replicate_zero, ← Nat.ofDigitChars_append, ← hzeros,
      Nat.ofDigitChars_ten_toDigits]
  have hexp : (ofGrid (c, unit)).exponent + 1 - (significant c).length = zeros + unit := by
    rw [ofGrid, hzeros, List.length_append, List.length_replicate]
    push_cast
    omega
  constructor
  · have hvalue : (ofGrid (c, unit)).value =
        Nat.ofDigitChars 10 (significant c) 0 * 10 ^ ((zeros : ℤ) + unit) := by
      rw [← hexp]
      rfl
    conv_rhs => rw [hnumber]
    rw [hvalue, zpow_add₀ (by norm_num), zpow_natCast, Nat.cast_mul, Nat.cast_pow, Nat.cast_ofNat]
    ring
  · conv_rhs => rw [hnumber]
    exact Nat.le_mul_of_pos_left _ (Nat.pow_pos (by decide))

/-! ## The shortest decimal -/

/-- The shortest decimal lies in the interval of its magnitude, and its digits are a number of eighteen
digits or the next power of ten. -/
theorem attracts_shortest (tie : Tie) (hm : 0 < m.mantissa) :
    m.Attracts (shortest tie m).value ∧ Nat.ofDigitChars 10 (shortest tie m).digits 0 ≤ 10 ^ 18 := by
  obtain ⟨c, unit, hsearch, -, hbound, hreads⟩ := exists_search tie hm
  obtain ⟨hvalue, hdigits⟩ := value_ofGrid c unit
  rw [shortest, hsearch, hvalue]
  exact ⟨Magnitude.reads_iff.1 hreads, hdigits.trans hbound⟩

/-- The shortest decimal is half a gap away at most. -/
theorem shortest_near (tie : Tie) (hm : 0 < m.mantissa) :
    m.value - gap m / 2 ≤ (shortest tie m).value ∧ (shortest tie m).value ≤ m.value + gap m / 2 :=
  near_of_attracts (attracts_shortest tie hm).1

/-- The greatest magnitude. -/
def greatest : Magnitude :=
  ⟨twoPow 53 - 1, 2045, by decide, Nat.le_refl _, .inr (by decide)⟩

/-- The shortest decimal of the greatest magnitude. -/
def greatestDecimal : ℕ := 17976931348623157 * 10 ^ 292

theorem shortest_greatest : shortest .even greatest = ⟨"17976931348623157".toList, 308⟩ := by
  decide +kernel

theorem value_shortest_greatest : (shortest .even greatest).value = greatestDecimal := by
  rw [shortest_greatest, value, greatestDecimal, Nat.cast_mul, Nat.cast_pow, Nat.cast_ofNat,
    ← zpow_natCast]
  rfl

/-- What reads back as another magnitude is smaller than what reads back as the greatest one. -/
theorem interval_high_le (h : m ≠ greatest) :
    (interval m).2.1 ≤ (2 ^ 55 - 6) * twoPow 2045 := by
  have hinterval : (interval m).2.1 = (4 * m.mantissa + 2) * twoPow m.shift := rfl
  have hmantissa : m.mantissa < 2 ^ 53 := m.mantissa_lt
  rw [hinterval]
  by_cases hshift : m.shift = 2045
  · have hne : m.mantissa ≠ 2 ^ 53 - 1 := by
      intro hfull
      refine h ?_
      cases m
      simp_all [greatest]
    rw [hshift]
    exact Nat.mul_le_mul_right _ (by omega)
  · have hle := m.shift_le
    have hpow : 2 * twoPow m.shift ≤ twoPow 2045 :=
      Magnitude.two_mul_twoPow_le (Nat.lt_of_le_of_ne hle hshift)
    calc (4 * m.mantissa + 2) * twoPow m.shift ≤ (2 ^ 54 - 1) * 2 * twoPow m.shift :=
          Nat.mul_le_mul_right _ (by omega)
      _ = (2 ^ 54 - 1) * (2 * twoPow m.shift) := Nat.mul_assoc _ _ _
      _ ≤ (2 ^ 55 - 6) * twoPow 2045 := Nat.mul_le_mul (by decide) hpow

/-- No shortest decimal is larger than that of the greatest magnitude. -/
theorem value_shortest_le (hm : 0 < m.mantissa) :
    (shortest .even m).value ≤ greatestDecimal := by
  by_cases hgreatest : m = greatest
  · rw [hgreatest, value_shortest_greatest]
  · have hden : (0 : ℚ) < (4 * Magnitude.denominator : ℕ) := by
      exact_mod_cast Nat.mul_pos (by decide) Magnitude.denominator_pos
    have hhigh : (interval m).2.1 ≤ greatestDecimal * (4 * Magnitude.denominator) :=
      (interval_high_le hgreatest).trans (by decide +kernel)
    refine (shortest_near .even hm).2.trans ?_
    rw [← highEnd_eq, Magnitude.highEnd, div_le_iff₀ hden]
    exact_mod_cast hhigh

/-- The gap above a magnitude is at least the smallest one. -/
theorem le_gap (m : Magnitude) : 1 / (Magnitude.denominator : ℚ) ≤ gap m := by
  have hone : (1 : ℚ) ≤ twoPow m.shift := by exact_mod_cast Magnitude.twoPow_pos m.shift
  exact div_le_div_of_nonneg_right hone (Nat.cast_nonneg _)

/-- The power of ten of a shortest decimal has at most three digits. -/
theorem exponent_shortest (hm : 0 < m.mantissa) :
    -400 < (shortest .even m).exponent ∧ (shortest .even m).exponent < 309 := by
  obtain ⟨hlow, hhigh⟩ := (isNormal_shortest .even hm).value_bounds
  have hle := value_shortest_le hm
  have hge := (shortest_near .even hm).1
  have hten : (1 : ℚ) < 10 := by norm_num
  constructor
  · -- A magnitude is at least as large as its gap.
    have hgap : gap m / 2 ≤ m.value - gap m / 2 := by
      have hone : (1 : ℚ) ≤ m.mantissa := by exact_mod_cast hm
      have hvalue := mul_le_mul_of_nonneg_right hone (gap_pos m).le
      rw [value_eq_mul_gap]
      linarith
    have hsmallest : (10 : ℚ) ^ (-399 : ℤ) ≤ 1 / Magnitude.denominator / 2 := by
      have hden : ((Magnitude.denominator * 2 : ℕ) : ℚ) ≤ (tenPow 399 : ℕ) := by
        exact_mod_cast (show Magnitude.denominator * 2 ≤ tenPow 399 by decide +kernel)
      have hpos : (0 : ℚ) < (Magnitude.denominator * 2 : ℕ) := by
        exact_mod_cast Nat.mul_pos Magnitude.denominator_pos (by decide)
      rw [zpow_neg, zpow_ofNat, ← cast_tenPow, div_div, ← one_div]
      exact_mod_cast one_div_le_one_div_of_le hpos hden
    have hlt : (10 : ℚ) ^ (-399 : ℤ) < 10 ^ ((shortest .even m).exponent + 1) := by
      linarith [le_gap m]
    have hexp := (zpow_lt_zpow_iff_right₀ hten).1 hlt
    omega
  · have hlt : (10 : ℚ) ^ (shortest .even m).exponent < 10 ^ (309 : ℤ) := by
      refine (hlow.trans hle).trans_lt ?_
      rw [zpow_ofNat, ← cast_tenPow, Nat.cast_lt]
      decide +kernel
    exact (zpow_lt_zpow_iff_right₀ hten).1 hlt

end Scientific

end ScriptOutline
