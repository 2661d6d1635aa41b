import ScriptOutline.Proofs.Json.FloatRange
import ScriptOutline.Proofs.Json.Rereading

/-!
# Reading floats back

The text of a finite double is read as a float, if not always as the same one. The reader is followed
through a whole numeral, in whatever layout it was written: the digits before and behind the point are
taken as one number, and the power of ten that is left belongs to it (`signedNumber_numeral`). What the
JSON layout writes is such a numeral (`exists_isLayout`), and its digits and its power of ten are in
range.
-/

namespace ScriptOutline

namespace Json

/-! ## Numerals -/

/-- A numeral that JSON has, is not read as an integer, and is short enough for no digit to be
dropped. -/
structure IsFloatText (n : Numeral) : Prop extends n.IsWellFormed where
  /-- No zero stands before other digits. -/
  first : n.whole = ['0'] ∨ ∃ c cs, n.whole = c :: cs ∧ c ≠ '0'
  marked : n.fraction ≠ [] ∨ n.exponent ≠ none
  digits_le : Nat.ofDigitChars 10 (n.whole ++ n.fraction) 0 ≤ wordMax
  exponent_le : ∀ e ∈ n.exponent, e.natAbs ≤ exponentMax

variable {digits rest : List Char} {positive : Bool} {s : Nat} {start : Int}

theorem le_ofDigitChars_start (s : Nat) (cs : List Char) : s ≤ Nat.ofDigitChars 10 cs s := by
  rw [Nat.ofDigitChars_eq_ofDigitChars_zero]
  exact Nat.le_add_right_of_le (Nat.le_mul_of_pos_left _ (Nat.pow_pos (by decide)))

/-- All digits are taken if they fit a word. -/
theorem takeDigits_before (hdigits : AreDigits digits)
    (hrest : ∀ c ∈ rest.head?, c.isDigit = false)
    (hfits : Nat.ofDigitChars 10 digits s ≤ wordMax) :
    takeDigits s (digits ++ rest) = (Nat.ofDigitChars 10 digits s, digits.length, rest) := by
  rw [takeDigits_append hrest, takeDigits_all s digits hdigits hfits, List.nil_append]

/-- The digits of an exponent are counted if they are not too many. -/
theorem exponentDigits_all (hdigits : AreDigits digits)
    (hfits : Nat.ofDigitChars 10 digits s ≤ exponentMax) :
    exponentDigits s digits = (some (Nat.ofDigitChars 10 digits s), []) := by
  induction digits generalizing s with
  | nil => rfl
  | cons c cs ih =>
    rw [Nat.ofDigitChars_cons, Nat.mul_comm] at hfits ⊢
    have hnext := (le_ofDigitChars_start _ cs).trans hfits
    rw [exponentDigits, if_pos (hdigits c List.mem_cons_self), if_pos hnext]
    exact ih (fun d hd => hdigits d (List.mem_cons_of_mem c hd)) hfits

/-- A written exponent is added to the one that is there. -/
theorem exponentPart_exponentText {e : Int} (h : e.natAbs ≤ exponentMax) :
    exponentPart .value positive s start ('e' :: Scientific.exponentText e) =
      floatFrom .value positive s (start + e) [] := by
  obtain ⟨c, cs, hcs⟩ := List.exists_cons_of_ne_nil (Nat.toDigits_ne_nil (n := e.natAbs) (b := 10))
  have hdigits := areDigits_toDigits e.natAbs
  have hvalue := Nat.ofDigitChars_ten_toDigits (n := e.natAbs)
  rw [hcs] at hdigits hvalue
  rw [Nat.ofDigitChars_cons, Nat.mul_zero, Nat.zero_add] at hvalue
  have hcount := exponentDigits_all (s := c.toNat - '0'.toNat)
    (fun d hd => hdigits d (List.mem_cons_of_mem c hd)) (hvalue.trans_le h)
  have hc := hdigits c List.mem_cons_self
  rw [Scientific.exponentText, hcs]
  rcases Int.lt_or_le e 0 with hneg | hpos
  · have hsum : start - (e.natAbs : ℤ) = start + e := by omega
    rw [if_neg (by omega), exponentPart]
    simp only [List.drop_succ_cons, List.drop_zero, exponentSign, hc, hcount, hvalue, Bool.not_true,
      Bool.false_eq_true, if_false, hsum]
  · have hsum : start + (e.natAbs : ℤ) = start + e := by omega
    rw [if_pos hpos, exponentPart]
    simp only [List.drop_succ_cons, List.drop_zero, exponentSign, hc, hcount, hvalue, Bool.not_true,
      Bool.false_eq_true, if_false, if_true, hsum]

variable {exponent : Option Int}

theorem maybeExponent_scaleText (h : ∀ e ∈ exponent, e.natAbs ≤ exponentMax) :
    maybeExponent .value positive s start (Numeral.scaleText exponent) =
      floatFrom .value positive s (start + exponent.getD 0) [] := by
  cases exponent with
  | none => rw [Numeral.scaleText, maybeExponent, Option.getD_none, add_zero]
  | some e =>
    rw [Numeral.scaleText, maybeExponent, if_pos (.inl rfl), exponentPart_exponentText (h e rfl)]
    rfl

theorem scaleText_not_digit (exponent : Option Int) :
    ∀ c ∈ (Numeral.scaleText exponent).head?, c.isDigit = false := by
  intro c hc
  rw [Numeral.scaleText_start exponent c hc]
  rfl

/-- The digits behind the point join those before it. -/
theorem fractionPart_append (hne : digits ≠ []) (hdigits : AreDigits digits)
    (hfits : Nat.ofDigitChars 10 digits s ≤ wordMax)
    (hexponent : ∀ e ∈ exponent, e.natAbs ≤ exponentMax) :
    fractionPart .value positive s 0 ('.' :: (digits ++ Numeral.scaleText exponent)) =
      floatFrom .value positive (Nat.ofDigitChars 10 digits s)
        (exponent.getD 0 - digits.length) [] := by
  have htake := takeDigits_before hdigits (scaleText_not_digit exponent) hfits
  have hsum : 0 - (digits.length : ℤ) + exponent.getD 0 = exponent.getD 0 - digits.length := by
    omega
  have hscale : maybeExponent .value positive (Nat.ofDigitChars 10 digits s)
      (0 - (digits.length : ℤ)) (Numeral.scaleText exponent) =
        floatFrom .value positive (Nat.ofDigitChars 10 digits s)
          (exponent.getD 0 - digits.length) [] := by
    rw [maybeExponent_scaleText hexponent, hsum]
  have hlength : digits.length ≠ 0 := List.length_pos_of_ne_nil hne |>.ne'
  rw [fractionPart]
  simp only [List.drop_succ_cons, List.drop_zero, htake]
  split
  · next c tail htail =>
    have hc := scaleText_not_digit exponent c (by rw [htail]; rfl)
    rw [if_neg (by simp [hc]), if_neg hlength, hscale]
  · next htail =>
    rw [htail] at hscale ⊢
    rw [if_neg hlength, hscale]

/-- What follows the whole part. -/
theorem afterInteger_append (hdigits : AreDigits digits)
    (hmarked : digits ≠ [] ∨ exponent ≠ none)
    (hfits : Nat.ofDigitChars 10 digits s ≤ wordMax)
    (hexponent : ∀ e ∈ exponent, e.natAbs ≤ exponentMax) :
    afterInteger .value positive s (Numeral.fractionText digits ++ Numeral.scaleText exponent) =
      floatFrom .value positive (Nat.ofDigitChars 10 digits s)
        (exponent.getD 0 - digits.length) [] := by
  cases digits with
  | cons c cs => exact fractionPart_append (List.cons_ne_nil c cs) hdigits hfits hexponent
  | nil =>
    obtain ⟨e, rfl⟩ := Option.ne_none_iff_exists'.1 (hmarked.resolve_left fun h => h rfl)
    rw [Numeral.fractionText, List.nil_append, Numeral.scaleText, afterInteger,
      exponentPart_exponentText (hexponent e rfl), Nat.ofDigitChars_nil, Int.zero_add]
    simp

theorem tail_not_digit (digits : List Char) (exponent : Option Int) :
    ∀ c ∈ (Numeral.fractionText digits ++ Numeral.scaleText exponent).head?, c.isDigit = false := by
  cases digits with
  | nil => exact scaleText_not_digit exponent
  | cons d ds =>
    intro c hc
    obtain rfl := Option.some.inj hc
    rfl

/-- The digits of the whole part and those behind the point are read as one number. -/
theorem numberText_numeral {n : Numeral} (h : IsFloatText n) :
    numberText .value positive
        (n.whole ++ (Numeral.fractionText n.fraction ++ Numeral.scaleText n.exponent)) =
      floatFrom .value positive (Nat.ofDigitChars 10 n.fraction (Nat.ofDigitChars 10 n.whole 0))
        (n.exponent.getD 0 - n.fraction.length) [] := by
  have htail := tail_not_digit n.fraction n.exponent
  have hdigits := h.digits_le
  rw [Nat.ofDigitChars_append] at hdigits
  rw [← afterInteger_append h.fraction h.marked hdigits h.exponent_le]
  generalize Numeral.fractionText n.fraction ++ Numeral.scaleText n.exponent = tail at htail ⊢
  rcases h.first with hzero | ⟨c, cs, hwhole, hc⟩
  · rw [hzero]
    cases tail with
    | nil => rfl
    | cons d tail =>
      rw [List.singleton_append, numberText, if_neg (by simp [htail d rfl])]
      rfl
  · have hall : AreDigits (c :: cs) := hwhole ▸ h.whole
    have hfits : Nat.ofDigitChars 10 cs (c.toNat - '0'.toNat) ≤ wordMax := by
      have hle := (le_ofDigitChars_start _ n.fraction).trans hdigits
      rwa [hwhole, Nat.ofDigitChars_cons, Nat.mul_zero, Nat.zero_add] at hle
    have htake := takeDigits_before (fun d hd => hall d (List.mem_cons_of_mem c hd)) htail hfits
    have hnone : tail.takeWhile Char.isDigit = [] := by
      cases tail with
      | nil => rfl
      | cons d tail => rw [List.takeWhile_cons, if_neg (by simp [htail d rfl])]
    rw [hwhole, Nat.ofDigitChars_cons, Nat.mul_zero, Nat.zero_add, List.cons_append,
      numberText_digit hc (hall c List.mem_cons_self), htake, afterDigits, hnone]
    rfl

/-- A numeral is read as the float of its digits and what is left of its power of ten. -/
theorem signedNumber_numeral {n : Numeral} (h : IsFloatText n) :
    signedNumber .value n.text =
      floatFrom .value (!n.negative) (Nat.ofDigitChars 10 (n.whole ++ n.fraction) 0)
        (n.exponent.getD 0 - n.fraction.length) [] := by
  rw [Nat.ofDigitChars_append, ← numberText_numeral h, Numeral.text]
  cases n.negative with
  | true => rfl
  | false =>
    obtain ⟨c, cs, hwhole⟩ := List.exists_cons_of_ne_nil h.whole_ne_nil
    have hc : c ≠ '-' := by
      rintro rfl
      exact absurd (h.whole '-' (by simp [hwhole])) (by decide)
    rw [hwhole]
    exact signedNumber_plain hc _ _

/-- A numeral whose digits and power of ten are in range is read as a float. -/
theorem exists_float_numeral {n : Numeral} (h : IsFloatText n)
    (hdigits : Nat.ofDigitChars 10 (n.whole ++ n.fraction) 0 ≤ 10 ^ 18)
    (hvalue : |n.value| ≤ Scientific.greatestDecimal) :
    ∃ d, signedNumber .value n.text = .ok (.float d, []) := by
  have habs : |n.value| = Nat.ofDigitChars 10 (n.whole ++ n.fraction) 0 *
      10 ^ (n.exponent.getD 0 - n.fraction.length) := by
    rw [Numeral.value, mul_assoc, abs_mul, abs_signOf, one_mul, abs_of_nonneg (by positivity)]
  rw [habs] at hvalue
  obtain ⟨d, hd⟩ := Option.isSome_iff_exists.1 (Double.isSome_scaled? hdigits hvalue)
  simp only [signedNumber_numeral h, floatFrom, hd]
  exact ⟨_, rfl⟩

/-! ## The layout of floats -/

variable {sc : Scientific}

theorem json_eq (sc : Scientific) :
    sc.json =
      if sc.exponent < -5 ∨ 15 < sc.exponent then sc.withExponent
      else if sc.exponent + 1 ≤ 0 then
        '0' :: '.' :: (List.replicate (-(sc.exponent + 1)).toNat '0' ++ sc.digits)
      else if (sc.digits.length : Int) ≤ sc.exponent + 1 then
        sc.digits ++ List.replicate (sc.exponent + 1 - sc.digits.length).toNat '0' ++ ['.', '0']
      else sc.digits.take (sc.exponent + 1).toNat ++ '.' :: sc.digits.drop (sc.exponent + 1).toNat :=
  rfl

/-- A zero behind the point changes nothing. -/
theorem value_point_zero (negative : Bool) (whole : List Char) :
    Numeral.value ⟨negative, whole, ['0'], none⟩ = Numeral.value ⟨negative, whole, [], none⟩ := by
  have hten : Nat.ofDigitChars 10 (whole ++ ['0']) 0 = 10 * Nat.ofDigitChars 10 whole 0 := by
    rw [Nat.ofDigitChars_append, Nat.ofDigitChars_cons]
    rfl
  rw [Numeral.value, Numeral.value, hten]
  simp
  ring

/-- A numeral with these digits before and behind the point, and with this power of ten. -/
theorem isFloatText_of {n : Numeral} (hwf : n.IsWellFormed)
    (hfirst : n.whole = ['0'] ∨ ∃ c cs, n.whole = c :: cs ∧ c ≠ '0')
    (hmarked : n.fraction ≠ [] ∨ n.exponent ≠ none)
    (hdigits : Nat.ofDigitChars 10 (n.whole ++ n.fraction) 0 ≤ 10 ^ 18)
    (hexponent : ∀ e ∈ n.exponent, e.natAbs ≤ 400) : IsFloatText n where
  toIsWellFormed := hwf
  first := hfirst
  marked := hmarked
  digits_le := hdigits.trans (by decide)
  exponent_le e he := (hexponent e he).trans (by decide)

/-- The numeral is this layout of a decimal with a sign, and it is read as a float. -/
structure IsLayout (n : Numeral) (negative : Bool) (sc : Scientific) (layout : List Char) : Prop where
  negative_eq : n.negative = negative
  text_eq : n.text = Double.signed negative layout
  isFloatText : IsFloatText n
  digits_le : Nat.ofDigitChars 10 (n.whole ++ n.fraction) 0 ≤ 10 ^ 18
  value_eq : n.value = signOf negative * sc.value
  /-- Zeros are filled in up to the point, or the power of ten is that of the last digit. -/
  power_eq : sc.digits.length ≤ sc.exponent + 1 ∧ sc.exponent ≤ 15 ∨
    n.exponent.getD 0 - n.fraction.length = sc.exponent + 1 - sc.digits.length

theorem isLayout_scaled (negative : Bool) (h : sc.IsNormal)
    (hdigits : Nat.ofDigitChars 10 sc.digits 0 ≤ 10 ^ 18)
    (hrange : -400 < sc.exponent ∧ sc.exponent < 309) :
    ∃ n, IsLayout n negative sc sc.withExponent := by
  obtain ⟨first, others, hsplit, hzero⟩ := h.first
  have hall : AreDigits ([first] ++ others) := by
    rw [List.singleton_append, ← hsplit]
    exact h.isDigit
  obtain ⟨hfirst, hothers⟩ := areDigits_append.1 hall
  have hlength : sc.digits.length = others.length + 1 := by rw [hsplit, List.length_cons]
  rw [hsplit] at hdigits
  have hexponent : ∀ e ∈ some sc.exponent, e.natAbs ≤ 400 := by
    intro e he
    obtain rfl := Option.some.inj he
    omega
  refine ⟨⟨negative, [first], others, some sc.exponent⟩, rfl, ?_,
    isFloatText_of ⟨List.cons_ne_nil _ _, hfirst, hothers⟩ (.inr ⟨first, [], rfl, hzero⟩)
      (.inr (Option.some_ne_none _)) hdigits hexponent, hdigits, Scientific.value_scaled hsplit,
    .inr ?_⟩
  · rw [Scientific.withExponent_eq hsplit, Numeral.text]
  · show sc.exponent - others.length = sc.exponent + 1 - sc.digits.length
    omega

/-- A numeral without a power of ten. -/
theorem isLayout_point {negative : Bool} {whole fraction : List Char}
    (hwhole : AreDigits whole) (hfraction : AreDigits fraction) (hne : fraction ≠ [])
    (hfirst : whole = ['0'] ∨ ∃ c cs, whole = c :: cs ∧ c ≠ '0')
    (hdigits : Nat.ofDigitChars 10 (whole ++ fraction) 0 ≤ 10 ^ 18)
    (hvalue : Numeral.value ⟨negative, whole, fraction, none⟩ = signOf negative * sc.value)
    (hpower : sc.digits.length ≤ sc.exponent + 1 ∧ sc.exponent ≤ 15 ∨
      0 - fraction.length = sc.exponent + 1 - sc.digits.length) :
    IsLayout ⟨negative, whole, fraction, none⟩ negative sc (whole ++ '.' :: fraction) where
  negative_eq := rfl
  text_eq := Numeral.text_point _ _ hne
  isFloatText := by
    have hwholene : whole ≠ [] := by
      rcases hfirst with rfl | ⟨c, cs, rfl, -⟩
      · exact List.cons_ne_nil _ _
      · exact List.cons_ne_nil _ _
    exact isFloatText_of ⟨hwholene, hwhole, hfraction⟩ hfirst (.inl hne) hdigits (by simp)
  digits_le := hdigits
  value_eq := hvalue
  power_eq := hpower

theorem isLayout_small (negative : Bool) (h : sc.IsNormal)
    (hdigits : Nat.ofDigitChars 10 sc.digits 0 ≤ 10 ^ 18) {zeros : ℕ}
    (hzeros : sc.exponent + 1 = -zeros) :
    ∃ n, IsLayout n negative sc ('0' :: '.' :: (List.replicate zeros '0' ++ sc.digits)) := by
  have hfraction : AreDigits (List.replicate zeros '0' ++ sc.digits) :=
    areDigits_append.2 ⟨areDigits_zeros zeros, h.isDigit⟩
  have hne : List.replicate zeros '0' ++ sc.digits ≠ [] := by
    obtain ⟨first, others, hsplit, -⟩ := h.first
    rw [hsplit]
    exact List.append_ne_nil_of_right_ne_nil _ (List.cons_ne_nil _ _)
  rw [← Scientific.ofDigitChars_zeros_append zeros] at hdigits
  refine ⟨_, isLayout_point (areDigits_zeros 1) hfraction hne (.inl rfl) hdigits
    (Scientific.value_small hzeros) (.inr ?_)⟩
  rw [List.length_append, List.length_replicate]
  omega

theorem isLayout_whole (negative : Bool) (h : sc.IsNormal) {zeros : ℕ}
    (hzeros : sc.exponent + 1 = sc.digits.length + zeros) (hsize : sc.exponent ≤ 15) :
    ∃ n, IsLayout n negative sc (sc.digits ++ List.replicate zeros '0' ++ ['.', '0']) := by
  obtain ⟨first, others, hsplit, hzero⟩ := h.first
  have hwhole : AreDigits (sc.digits ++ List.replicate zeros '0') :=
    areDigits_append.2 ⟨h.isDigit, areDigits_zeros zeros⟩
  have hlength : (sc.digits ++ List.replicate zeros '0' ++ ['0']).length ≤ 18 := by
    rw [List.length_append, List.length_append, List.length_replicate, List.length_singleton]
    omega
  have hdigits : Nat.ofDigitChars 10 (sc.digits ++ List.replicate zeros '0' ++ ['0']) 0 ≤ 10 ^ 18 :=
    (ofDigitChars_lt (areDigits_append.2 ⟨hwhole, areDigits_zeros 1⟩)).le.trans
      (Nat.pow_le_pow_right (by decide) hlength)
  have hfirst : ∃ c cs, sc.digits ++ List.replicate zeros '0' = c :: cs ∧ c ≠ '0' :=
    ⟨first, others ++ List.replicate zeros '0', by rw [hsplit]; rfl, hzero⟩
  have hvalue := (value_point_zero negative _).trans (Scientific.value_whole hzeros)
  exact ⟨_, isLayout_point hwhole (areDigits_zeros 1) (List.cons_ne_nil _ _) (.inr hfirst) hdigits
    hvalue (.inl ⟨by omega, hsize⟩)⟩

theorem isLayout_divided (negative : Bool) (h : sc.IsNormal)
    (hdigits : Nat.ofDigitChars 10 sc.digits 0 ≤ 10 ^ 18) {count : ℕ}
    (hcount : sc.exponent + 1 = count) (hpos : 0 < count) (hcut : count < sc.digits.length) :
    ∃ n, IsLayout n negative sc (sc.digits.take count ++ '.' :: sc.digits.drop count) := by
  obtain ⟨first, others, hsplit, hzero⟩ := h.first
  have hparts : sc.digits = sc.digits.take count ++ sc.digits.drop count :=
    (List.take_append_drop count sc.digits).symm
  have hlength : (sc.digits.take count).length = count := List.length_take_of_le hcut.le
  have hall : AreDigits (sc.digits.take count ++ sc.digits.drop count) := by
    rw [← hparts]
    exact h.isDigit
  obtain ⟨hbefore, hafter⟩ := areDigits_append.1 hall
  have hne : sc.digits.drop count ≠ [] := by
    rw [Ne, List.drop_eq_nil_iff]
    omega
  have hfirst : ∃ c cs, sc.digits.take count = c :: cs ∧ c ≠ '0' := by
    obtain ⟨j, rfl⟩ : ∃ j, count = j + 1 := ⟨count - 1, by omega⟩
    exact ⟨first, others.take j, by rw [hsplit, List.take_succ_cons], hzero⟩
  rw [hparts] at hdigits
  refine ⟨_, isLayout_point hbefore hafter hne (.inr hfirst) hdigits
    (Scientific.value_divided hparts (by omega)) (.inr ?_)⟩
  rw [List.length_drop]
  omega

/-- The JSON layout of a decimal is a numeral of its value that is read as a float. -/
theorem exists_isLayout (negative : Bool) (h : sc.IsNormal)
    (hdigits : Nat.ofDigitChars 10 sc.digits 0 ≤ 10 ^ 18)
    (hrange : -400 < sc.exponent ∧ sc.exponent < 309) : ∃ n, IsLayout n negative sc sc.json := by
  rw [json_eq]
  split_ifs with hscaled hsmall hwhole
  · exact isLayout_scaled negative h hdigits hrange
  · exact isLayout_small negative h hdigits (by omega)
  · exact isLayout_whole negative h (by omega) (by omega)
  · exact isLayout_divided negative h hdigits (by omega) (by omega) (by omega)

end Json

/-! ## Finite doubles -/

/-- The text of a finite double is that of a numeral that is read as a float. -/
theorem Double.exists_numeral {d : Double} (h : d.isFinite = true) :
    ∃ n : Numeral, n.text = d.floatJson ∧ Json.IsFloatText n ∧
      Nat.ofDigitChars 10 (n.whole ++ n.fraction) 0 ≤ 10 ^ 18 ∧
      |n.value| ≤ Scientific.greatestDecimal := by
  obtain ⟨negative, size, rfl⟩ : ∃ negative size, d = .finite negative size := by
    cases d with
    | finite negative size => exact ⟨negative, size, rfl⟩
    | infinite negative => cases h
    | nan => cases h
  rw [floatJson]
  by_cases hsize : size.mantissa = 0
  · have hzero : Nat.ofDigitChars 10 (['0'] ++ ['0']) 0 = 0 := rfl
    refine ⟨⟨negative, ['0'], ['0'], none⟩, ?_, Json.isFloatText_of
      ⟨List.cons_ne_nil _ _, areDigits_zeros 1, areDigits_zeros 1⟩ (.inl rfl)
      (.inl (List.cons_ne_nil _ _)) (by rw [hzero]; exact Nat.zero_le _) (by simp),
      by rw [hzero]; exact Nat.zero_le _, ?_⟩
    · rw [if_pos hsize, Numeral.text_point _ _ (List.cons_ne_nil _ _)]
      rfl
    · rw [Numeral.value, hzero, Nat.cast_zero, mul_zero, zero_mul, abs_zero]
      exact Nat.cast_nonneg _
  · have hm := Nat.pos_of_ne_zero hsize
    have hnormal := Scientific.isNormal_shortest .even hm
    obtain ⟨n, hn⟩ := Json.exists_isLayout negative hnormal
      (Scientific.attracts_shortest .even hm).2 (Scientific.exponent_shortest hm)
    refine ⟨n, by rw [hn.text_eq, if_neg hsize], hn.isFloatText, hn.digits_le, ?_⟩
    have hpositive : 0 ≤ (Scientific.shortest .even size).value :=
      (zpow_nonneg (by norm_num) _).trans hnormal.value_bounds.1
    rw [hn.value_eq, abs_mul, abs_signOf, one_mul, abs_of_nonneg hpositive]
    exact Scientific.value_shortest_le hm

namespace JsonNumber

/-- A finite double is read back as a float. -/
theorem reread_float {d : Double} (h : d.isFinite = true) :
    (float d).isRead = true ∧ ∃ e, (float d).reread = .float e := by
  obtain ⟨n, htext, hfloat, hdigits, hvalue⟩ := Double.exists_numeral h
  obtain ⟨e, he⟩ := Json.exists_float_numeral hfloat hdigits hvalue
  rw [isRead, reread, text, ← htext, he]
  exact ⟨rfl, e, rfl⟩

end JsonNumber

end ScriptOutline
