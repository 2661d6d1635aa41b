import ScriptOutline.Proofs.Number.Numeral
import ScriptOutline.Proofs.Number.ShortestDigits

/-!
# Number text is exact

A cell shows a number as a script would print it. The digits and their power of ten decide where the
point goes and whether a power of ten is written (`Scientific.LaidOut`): the number of digits before
the point and the number of zeros that are filled in are natural numbers in each of the four
layouts, and one of the four applies to any digits and any exponent (`Scientific.shows_display`).
Read as an exact decimal the text is the digits times the power of ten, and a whole number below the
bound is itself.
-/

namespace ScriptOutline

namespace Scientific

/-- The number `d₁.d₂…dₖ · 10^exponent`. -/
def value (s : Scientific) : ℚ :=
  Nat.ofDigitChars 10 s.digits 0 * 10 ^ (s.exponent + 1 - s.digits.length)

/-- How a script prints the digits `d₁…dₖ` with the exponent `e`, as the parts of a numeral. -/
inductive LaidOut (negative : Bool) (s : Scientific) : Numeral → Prop where
  /-- The digits, and zeros up to the point. -/
  | whole (zeros : ℕ) (hpoint : s.exponent + 1 = s.digits.length + zeros)
      (hplain : s.exponent < 21) :
    LaidOut negative s ⟨negative, s.digits ++ List.replicate zeros '0', [], none⟩
  /-- The point between two digits. -/
  | divided (before after : List Char) (hdigits : s.digits = before ++ after)
      (hbefore : before ≠ []) (hafter : after ≠ []) (hpoint : s.exponent + 1 = before.length)
      (hplain : s.exponent < 21) :
    LaidOut negative s ⟨negative, before, after, none⟩
  /-- A zero, the point, and zeros before the digits. -/
  | small (zeros : ℕ) (hpoint : s.exponent + 1 = -zeros) (hplain : -7 < s.exponent) :
    LaidOut negative s ⟨negative, ['0'], List.replicate zeros '0' ++ s.digits, none⟩
  /-- The point behind the first digit, and a power of ten. -/
  | scaled (first : Char) (others : List Char) (hdigits : s.digits = first :: others)
      (hscaled : s.exponent ≤ -7 ∨ 21 ≤ s.exponent) :
    LaidOut negative s ⟨negative, [first], others, some s.exponent⟩

/-- The text is the layout of the digits and the exponent, in plain notation exactly between `1e-7`
and `1e21`, and read as an exact decimal it is their number. -/
def Shows (negative : Bool) (s : Scientific) (text : List Char) : Prop :=
  ∃ n : Numeral, s.LaidOut negative n ∧ text = n.text ∧ Numeral.read? text = some n ∧
    n.value = signOf negative * s.value ∧ (n.exponent = none ↔ -7 < s.exponent ∧ s.exponent < 21)

variable {negative : Bool} {s : Scientific} {n : Numeral}

/-- What is laid out is a numeral. -/
theorem LaidOut.isWellFormed (h : s.LaidOut negative n) (hne : s.digits ≠ [])
    (hdigits : AreDigits s.digits) : n.IsWellFormed := by
  cases h with
  | whole zeros =>
    have hwhole : s.digits ++ List.replicate zeros '0' ≠ [] :=
      List.append_ne_nil_of_left_ne_nil hne _
    exact ⟨hwhole, areDigits_append.2 ⟨hdigits, areDigits_zeros zeros⟩, nofun⟩
  | divided before after hsplit hbefore hafter =>
    rw [hsplit] at hdigits
    obtain ⟨hbefores, hafters⟩ := areDigits_append.1 hdigits
    exact ⟨hbefore, hbefores, hafters⟩
  | small zeros =>
    have hfraction := areDigits_append.2 ⟨areDigits_zeros zeros, hdigits⟩
    exact ⟨List.cons_ne_nil _ _, areDigits_zeros 1, hfraction⟩
  | scaled first others hsplit =>
    have hparts : AreDigits ([first] ++ others) := by rwa [List.singleton_append, ← hsplit]
    obtain ⟨hfirst, hothers⟩ := areDigits_append.1 hparts
    exact ⟨List.cons_ne_nil _ _, hfirst, hothers⟩

/-! ### The point is where the power of ten puts it -/

theorem value_whole {zeros : ℕ} (hpoint : s.exponent + 1 = s.digits.length + zeros) :
    Numeral.value ⟨negative, s.digits ++ List.replicate zeros '0', [], none⟩ =
      signOf negative * s.value := by
  have hexp : s.exponent + 1 - s.digits.length = zeros := by omega
  rw [Numeral.value, value, ← mul_assoc, hexp, List.append_nil, Nat.ofDigitChars_append,
    Nat.ofDigitChars_replicate_zero]
  simp
  ring

theorem value_divided {before after : List Char} (hdigits : s.digits = before ++ after)
    (hpoint : s.exponent + 1 = before.length) :
    Numeral.value ⟨negative, before, after, none⟩ = signOf negative * s.value := by
  have hexp : s.exponent + 1 - s.digits.length = -after.length := by
    rw [hdigits, List.length_append]
    omega
  rw [Numeral.value, value, ← mul_assoc, hexp, hdigits, Option.getD_none, zero_sub]

theorem ofDigitChars_zeros_append (zeros : ℕ) (digits : List Char) :
    Nat.ofDigitChars 10 (['0'] ++ (List.replicate zeros '0' ++ digits)) 0 =
      Nat.ofDigitChars 10 digits 0 := by
  rw [Nat.ofDigitChars_append, Nat.ofDigitChars_append, Nat.ofDigitChars_replicate_zero]
  rfl

theorem value_small {zeros : ℕ} (hpoint : s.exponent + 1 = -zeros) :
    Numeral.value ⟨negative, ['0'], List.replicate zeros '0' ++ s.digits, none⟩ =
      signOf negative * s.value := by
  have hexp : s.exponent + 1 - s.digits.length =
      -(List.replicate zeros '0' ++ s.digits).length := by
    rw [List.length_append, List.length_replicate]
    omega
  rw [Numeral.value, value, ← mul_assoc, hexp, ofDigitChars_zeros_append, Option.getD_none, zero_sub]

theorem value_scaled {first : Char} {others : List Char} (hdigits : s.digits = first :: others) :
    Numeral.value ⟨negative, [first], others, some s.exponent⟩ = signOf negative * s.value := by
  have hexp : s.exponent + 1 - s.digits.length = s.exponent - others.length := by
    rw [hdigits, List.length_cons]
    omega
  rw [Numeral.value, value, ← mul_assoc, hexp, hdigits, Option.getD_some, List.singleton_append]

theorem LaidOut.value_eq (h : s.LaidOut negative n) : n.value = signOf negative * s.value := by
  cases h with
  | whole zeros hpoint => exact value_whole hpoint
  | divided before after hsplit _ _ hpoint => exact value_divided hsplit hpoint
  | small zeros hpoint => exact value_small hpoint
  | scaled first others hsplit => exact value_scaled hsplit

/-- The notation is plain for the exponents in the range. -/
theorem LaidOut.exponent_eq_none_iff (h : s.LaidOut negative n) (hne : s.digits ≠ []) :
    n.exponent = none ↔ -7 < s.exponent ∧ s.exponent < 21 := by
  have hlength : 0 < s.digits.length := List.length_pos_of_ne_nil hne
  cases h with
  | whole zeros hpoint hplain => exact iff_of_true rfl (by omega)
  | divided before after _ hbefore _ hpoint hplain =>
    have hpos : 0 < before.length := List.length_pos_of_ne_nil hbefore
    exact iff_of_true rfl (by omega)
  | small zeros hpoint hplain => exact iff_of_true rfl (by omega)
  | scaled first others _ hscaled => exact iff_of_false nofun (by omega)

theorem withExponent_eq {first : Char} {others : List Char} (h : s.digits = first :: others) :
    s.withExponent =
      [first] ++ (Numeral.fractionText others ++ Numeral.scaleText (some s.exponent)) := by
  rw [withExponent, h]
  cases others with
  | nil => rfl
  | cons d ds => rfl

theorem display_eq (s : Scientific) :
    s.display =
      if (s.digits.length : Int) ≤ s.exponent + 1 ∧ s.exponent + 1 ≤ 21 then
        s.digits ++ List.replicate (s.exponent + 1 - s.digits.length).toNat '0'
      else if 0 < s.exponent + 1 ∧ s.exponent + 1 ≤ 21 then
        s.digits.take (s.exponent + 1).toNat ++ '.' :: s.digits.drop (s.exponent + 1).toNat
      else if -6 < s.exponent + 1 ∧ s.exponent + 1 ≤ 0 then
        '0' :: '.' :: (List.replicate (-(s.exponent + 1)).toNat '0' ++ s.digits)
      else s.withExponent := rfl

/-- Any digits with any exponent are laid out in one of the ways. -/
theorem exists_laidOut (negative : Bool) (hne : s.digits ≠ []) :
    ∃ n : Numeral, s.LaidOut negative n ∧ Double.signed negative s.display = n.text := by
  rw [display_eq]
  by_cases hwhole : (s.digits.length : Int) ≤ s.exponent + 1 ∧ s.exponent + 1 ≤ 21
  · obtain ⟨zeros, hzeros⟩ : ∃ zeros : ℕ, s.exponent + 1 = s.digits.length + zeros :=
      ⟨(s.exponent + 1 - s.digits.length).toNat, by omega⟩
    have hcount : (s.exponent + 1 - s.digits.length).toNat = zeros := by omega
    refine ⟨_, .whole zeros hzeros (by omega), ?_⟩
    rw [if_pos hwhole, hcount, Numeral.text_plain]
  rw [if_neg hwhole]
  by_cases hdivided : 0 < s.exponent + 1 ∧ s.exponent + 1 ≤ 21
  · obtain ⟨count, hcount⟩ : ∃ count : ℕ, s.exponent + 1 = count :=
      ⟨(s.exponent + 1).toNat, by omega⟩
    have hsplit : s.digits = s.digits.take count ++ s.digits.drop count :=
      (List.take_append_drop count s.digits).symm
    have hlength : (s.digits.take count).length = count := List.length_take_of_le (by omega)
    have hbefore : s.digits.take count ≠ [] := List.ne_nil_of_length_pos (by omega)
    have hafter : s.digits.drop count ≠ [] := by
      rw [Ne, List.drop_eq_nil_iff]
      omega
    refine ⟨_, .divided _ _ hsplit hbefore hafter (by omega) (by omega), ?_⟩
    rw [if_pos hdivided, hcount, Int.toNat_natCast, Numeral.text_point _ _ hafter]
  rw [if_neg hdivided]
  by_cases hsmall : -6 < s.exponent + 1 ∧ s.exponent + 1 ≤ 0
  · obtain ⟨zeros, hzeros⟩ : ∃ zeros : ℕ, s.exponent + 1 = -zeros :=
      ⟨(-(s.exponent + 1)).toNat, by omega⟩
    have hcount : (-(s.exponent + 1)).toNat = zeros := by omega
    have hfraction : List.replicate zeros '0' ++ s.digits ≠ [] :=
      List.append_ne_nil_of_right_ne_nil _ hne
    refine ⟨_, .small zeros hzeros (by omega), ?_⟩
    rw [if_pos hsmall, hcount, Numeral.text_point _ _ hfraction]
    rfl
  · obtain ⟨first, others, hsplit⟩ := List.exists_cons_of_ne_nil hne
    have hlength : 0 < s.digits.length := List.length_pos_of_ne_nil hne
    refine ⟨_, .scaled first others hsplit (by omega), ?_⟩
    rw [if_neg hsmall, withExponent_eq hsplit, Numeral.text]

/-- Any digits with any exponent are shown as their number. -/
theorem shows_display (negative : Bool) (hne : s.digits ≠ []) (hdigits : AreDigits s.digits) :
    s.Shows negative (Double.signed negative s.display) := by
  obtain ⟨n, hn, htext⟩ := exists_laidOut negative hne
  have hread := Numeral.read?_text (hn.isWellFormed hne hdigits)
  rw [← htext] at hread
  exact ⟨n, hn, htext, hread, hn.value_eq, hn.exponent_eq_none_iff hne⟩

end Scientific

theorem abs_signOf (negative : Bool) : |signOf negative| = 1 := by
  cases negative with
  | true => rw [signOf, if_pos rfl, abs_neg, abs_one]
  | false => rw [signOf, if_neg Bool.false_ne_true, abs_one]

theorem cast_signed (negative : Bool) (k : ℕ) :
    ((if negative then -(k : ℤ) else k : ℤ) : ℚ) = signOf negative * k := by
  cases negative with
  | true => rw [signOf, if_pos rfl, if_pos rfl, Int.cast_neg, Int.cast_natCast, neg_one_mul]
  | false =>
    rw [signOf, if_neg Bool.false_ne_true, if_neg Bool.false_ne_true, Int.cast_natCast, one_mul]

theorem Magnitude.value_eq_natCast_iff (size : Magnitude) (k : ℕ) :
    size.value = k ↔ size.numerator = k * denominator := by
  have hden : (denominator : ℚ) ≠ 0 := by exact_mod_cast denominator_pos.ne'
  rw [value, div_eq_iff hden]
  exact_mod_cast Iff.rfl

namespace Double

theorem toRat?_finite (negative : Bool) (size : Magnitude) :
    (finite negative size).toRat? = some (signOf negative * size.value) := by
  cases negative with
  | true => rw [toRat?, signOf, if_pos rfl, neg_one_mul]
  | false => rw [toRat?, signOf, if_neg Bool.false_ne_true, one_mul]

/-- A double that is written as an integer is that integer. -/
theorem toRat?_of_toInt? {negative : Bool} {size : Magnitude} {i : ℤ}
    (h : (finite negative size).toInt? = some i) :
    (finite negative size).toRat? = some (i : ℚ) ∧ i.natAbs < wholeBound := by
  rw [toInt?] at h
  by_cases hwhole : size.numerator % Magnitude.denominator = 0 ∧
      size.numerator / Magnitude.denominator < wholeBound
  · rw [if_pos hwhole] at h
    have hvalue := (size.value_eq_natCast_iff (size.numerator / Magnitude.denominator)).2
      (Nat.div_mul_cancel (Nat.dvd_of_mod_eq_zero hwhole.1)).symm
    have hbound := hwhole.2
    generalize size.numerator / Magnitude.denominator = k at h hvalue hbound
    obtain rfl := Option.some.inj h
    rw [toRat?_finite, hvalue, cast_signed]
    refine ⟨rfl, ?_⟩
    split_ifs
    · rwa [Int.natAbs_neg, Int.natAbs_natCast]
    · rwa [Int.natAbs_natCast]
  · rw [if_neg hwhole] at h
    cases h

/-- A double that is a whole number below the bound is written as an integer. -/
theorem toInt?_of_toRat? {negative : Bool} {size : Magnitude} {i : ℤ}
    (h : (finite negative size).toRat? = some (i : ℚ)) (hbound : i.natAbs < wholeBound) :
    (finite negative size).toInt? = some i := by
  rw [toRat?_finite] at h
  have hsigned : signOf negative * size.value = i := Option.some.inj h
  have hvalue : size.value = i.natAbs := by
    rw [Nat.cast_natAbs, Int.cast_abs, ← hsigned, abs_mul, abs_signOf, one_mul,
      abs_of_nonneg size.value_nonneg]
  have hnumerator := (size.value_eq_natCast_iff _).1 hvalue
  have hquotient : size.numerator / Magnitude.denominator = i.natAbs := by
    rw [hnumerator, Nat.mul_div_cancel _ Magnitude.denominator_pos]
  have hrest : size.numerator % Magnitude.denominator = 0 := by rw [hnumerator, Nat.mul_mod_left]
  have hresult : (if negative then -(i.natAbs : ℤ) else i.natAbs) = i := by
    rw [hvalue, ← cast_signed] at hsigned
    exact Int.cast_injective hsigned
  rw [toInt?, hquotient, if_pos ⟨hrest, hbound⟩, hresult]

theorem natAbs_lt_wholeBound_iff {i : ℤ} : i.natAbs < wholeBound ↔ |i| < 9 * 10 ^ 15 := by
  rw [Int.abs_eq_natAbs]
  unfold wholeBound
  omega

/-- The doubles that are written as integers are the whole numbers below the bound. -/
theorem toInt?_eq_some_iff {negative : Bool} {size : Magnitude} {i : ℤ} :
    (finite negative size).toInt? = some i ↔
      (finite negative size).toRat? = some (i : ℚ) ∧ |i| < 9 * 10 ^ 15 := by
  rw [← natAbs_lt_wholeBound_iff]
  exact ⟨toRat?_of_toInt?, fun h => toInt?_of_toRat? h.1 h.2⟩

theorem toInt?_eq_none_iff {negative : Bool} {size : Magnitude} :
    (finite negative size).toInt? = none ↔
      ∀ i : ℤ, (finite negative size).toRat? = some (i : ℚ) → 9 * 10 ^ 15 ≤ |i| := by
  rw [Option.eq_none_iff_forall_ne_some]
  refine forall_congr' fun i => ?_
  rw [Ne, toInt?_eq_some_iff, not_and, not_lt]

/-- What is not written as an integer is not zero. -/
theorem mantissa_pos {negative : Bool} {size : Magnitude}
    (h : (finite negative size).toInt? = none) : 0 < size.mantissa := by
  by_contra hzero
  have hvalue : size.value = (0 : ℕ) := by
    rw [size.value_eq_natCast_iff, Nat.zero_mul, size.numerator_eq_zero_iff]
    omega
  have hwhole : (finite negative size).toRat? = some ((0 : ℤ) : ℚ) := by
    rw [toRat?_finite, hvalue, Nat.cast_zero, mul_zero, Int.cast_zero]
  have hlarge := toInt?_eq_none_iff.1 h 0 hwhole
  rw [abs_zero] at hlarge
  omega

/-- The text of a finite double, read as an exact decimal. A whole number below `9e15` is itself,
zero without a sign. Any other number is shown by the digits and the power of ten of its shortest
decimal, of which no digit is superfluous. The layout does not depend on which digits these are: any
digits with any power of ten are shown as their number. -/
theorem display_exact (negative : Bool) (size : Magnitude) :
    (∀ i : ℤ, (finite negative size).toRat? = some (i : ℚ) → |i| < 9 * 10 ^ 15 →
      Numeral.read? (finite negative size).display = some (.ofInt i) ∧
        (Numeral.ofInt i).value = i) ∧
    ((∀ i : ℤ, (finite negative size).toRat? = some (i : ℚ) → 9 * 10 ^ 15 ≤ |i|) →
      (Scientific.shortest .up size).IsNormal ∧
        (Scientific.shortest .up size).Shows negative (finite negative size).display) ∧
    ∀ s : Scientific, s.digits ≠ [] → AreDigits s.digits →
      s.Shows negative (signed negative s.display) := by
  refine ⟨fun i hvalue hsmall => ⟨?_, Numeral.value_ofInt i⟩, fun hother => ?_,
    fun s hne hdigits => Scientific.shows_display negative hne hdigits⟩
  · have hdisplay : (finite negative size).display = (Numeral.ofInt i).text := by
      rw [display, toInt?_eq_some_iff.2 ⟨hvalue, hsmall⟩, Numeral.text_ofInt]
    rw [hdisplay]
    exact Numeral.read?_text (Numeral.isWellFormed_ofInt i)
  · have hnone := toInt?_eq_none_iff.2 hother
    have hdisplay : (finite negative size).display =
        signed negative (Scientific.shortest .up size).display := by rw [display, hnone]
    have hnormal := Scientific.isNormal_shortest .up (mantissa_pos hnone)
    obtain ⟨c, cs, hdigits, -⟩ := hnormal.first
    have hne : (Scientific.shortest .up size).digits ≠ [] := by
      rw [hdigits]
      exact List.cons_ne_nil c cs
    rw [hdisplay]
    exact ⟨hnormal, Scientific.shows_display negative hne hnormal.isDigit⟩

/-- The smallest positive magnitude. -/
def smallest : Magnitude := ⟨1, 0, by decide, Magnitude.zero.shift_le, .inl rfl⟩

/-- Negative zero is a zero without a sign, and the negative double next to it is one digit with a
power of ten. -/
theorem display_exact_near_zero :
    Numeral.read? (finite true .zero).display = some (.ofInt 0) ∧
      (Scientific.shortest .up smallest).IsNormal ∧
      Scientific.Shows true ⟨['5'], -324⟩ (finite true smallest).display ∧
      (finite true smallest).display = "-5e-324".toList := by
  have hzero : (finite true Magnitude.zero).toRat? = some ((0 : ℤ) : ℚ) := by
    rw [toRat?_finite, Magnitude.value_zero, mul_zero, Int.cast_zero]
  have hother := toInt?_eq_none_iff.1 (show (finite true smallest).toInt? = none by decide +kernel)
  have hshortest : Scientific.shortest .up smallest = ⟨['5'], -324⟩ := by decide +kernel
  have hread := ((display_exact true .zero).1 0 hzero (by decide)).1
  obtain ⟨hnormal, hshows⟩ := (display_exact true smallest).2.1 hother
  rw [hshortest] at hshows
  refine ⟨hread, hnormal, hshows, ?_⟩
  decide +kernel

end Double

end ScriptOutline
