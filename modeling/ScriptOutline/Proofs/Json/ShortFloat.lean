import ScriptOutline.Proofs.Json.FloatText
import ScriptOutline.Proofs.Number.ReadingBack

/-!
# Floats with few digits

Digits that fit a mantissa are a double as they are, and so are the powers of ten up to the
twenty-second. One multiplication or division of two such doubles rounds only once, so it gives the
double that the decimal is rounded to, and that is the one that was written.
-/

namespace ScriptOutline

namespace Magnitude

theorem twoPow_add (a b : Nat) : twoPow (a + b) = twoPow a * twoPow b := Nat.pow_add 2 a b

theorem mul_twoPow_mul_twoPow (u a b : Nat) : u * twoPow a * twoPow b = u * twoPow (a + b) := by
  rw [twoPow_add, Nat.mul_assoc]

/-- A number with a mantissa and more twos than it is shifted by is rounded to itself. -/
theorem roundHalfEven_exact {u d : Nat} (hu : u < twoPow 53) :
    roundHalfEven (u * twoPow d) (1 * twoPow (Nat.log2 (u * twoPow d / 1) + 1 - 53)) *
      twoPow (Nat.log2 (u * twoPow d / 1) + 1 - 53) = u * twoPow d := by
  have hshift : Nat.log2 (u * twoPow d / 1) + 1 - 53 ≤ d := by
    rw [Nat.div_one]
    rcases Nat.eq_zero_or_pos u with rfl | hpos
    · rw [Nat.zero_mul, Nat.log2_zero]
      exact Nat.zero_le _
    · have hlt : u * twoPow d < 2 ^ (53 + d) := by
        rw [Nat.pow_add]
        exact Nat.mul_lt_mul_of_pos_right hu (twoPow_pos d)
      have hlog := (Nat.log2_lt (Nat.mul_ne_zero hpos.ne' (twoPow_pos d).ne')).2 hlt
      omega
  generalize Nat.log2 (u * twoPow d / 1) + 1 - 53 = shift at hshift ⊢
  obtain ⟨k, rfl⟩ := Nat.exists_eq_add_of_le' hshift
  rw [twoPow_add, ← Nat.mul_assoc, Nat.one_mul, roundHalfEven_mul (twoPow_pos shift)]

end Magnitude

namespace Double

open Magnitude (denominator)

variable {m : Magnitude}

/-- A natural number with a mantissa and a power of two is a double as it is. -/
theorem ofNat_mul_twoPow {u j : Nat} (hu : u < twoPow 53) (hj : j ≤ 900) :
    ∃ a, ofNat (u * twoPow j) = finite false a ∧ a.numerator = u * twoPow j * denominator := by
  have hlt : u * twoPow j < twoPow (53 + j) * 1 := by
    rw [Nat.mul_one, Magnitude.twoPow_add]
    exact Nat.mul_lt_mul_of_pos_right hu (Magnitude.twoPow_pos j)
  obtain ⟨a, ha⟩ := Magnitude.exists_ofRatio? (by omega : 53 + j ≤ 1022) Nat.one_pos hlt
  refine ⟨a, by rw [ofNat, ofRatio, ha, ofSize?], ?_⟩
  obtain ⟨d, hd⟩ : ∃ d, denominator = twoPow d := ⟨1074, by unfold denominator; rfl⟩
  have hscaled : u * twoPow j * denominator = u * twoPow (j + d) := by
    rw [hd, Magnitude.mul_twoPow_mul_twoPow]
  rw [(Magnitude.numerator_of_ofRatio? ha).1, Magnitude.roundedUnits, Magnitude.roundingShift,
    hscaled]
  exact Magnitude.roundHalfEven_exact hu

theorem ofNat_exact {n : Nat} (h : n < twoPow 53) :
    ∃ a, ofNat n = finite false a ∧ a.numerator = n * denominator := by
  simpa using ofNat_mul_twoPow (j := 0) h (by decide)

/-- The powers of ten up to the twenty-second are doubles. -/
theorem ofNat_tenPow {k : Nat} (h : k ≤ 22) :
    ∃ a, ofNat (tenPow k) = finite false a ∧ a.numerator = tenPow k * denominator := by
  have hsplit : tenPow k = 5 ^ k * twoPow k := Nat.mul_pow 5 2 k
  have hfive : 5 ^ k < twoPow 53 :=
    (Nat.pow_le_pow_right (by decide) h).trans_lt (by decide : 5 ^ 22 < twoPow 53)
  rw [hsplit]
  exact ofNat_mul_twoPow hfive (by omega)

/-- Few digits and a small power of ten are read as the double that their number is rounded to. -/
theorem scaled?_of_attracts {s : Nat} {e : Int} (hpos : 0 < s) (hs : s < twoPow 53)
    (he : e.natAbs ≤ 22) (h : m.Attracts (s * 10 ^ e)) : scaled? s e = some (finite false m) := by
  obtain ⟨a, ha, hnumber⟩ := ofNat_exact hs
  obtain ⟨b, hb, hpower⟩ := ofNat_tenPow he
  have hd : (denominator : ℚ) ≠ 0 := by exact_mod_cast Magnitude.denominator_pos.ne'
  have hten : tenPow e.natAbs ≤ twoPow 100 := (tenPow_le_tenPow he).trans (by decide)
  have hsize : s * tenPow e.natAbs < twoPow 53 * twoPow 100 :=
    Nat.mul_lt_mul_of_lt_of_le hs hten (Magnitude.twoPow_pos 100)
  rw [← Magnitude.twoPow_add] at hsize
  rcases Int.lt_or_le e 0 with hneg | hnonneg
  · have hquotient : ((s * denominator : ℕ) : ℚ) / (tenPow e.natAbs * denominator : ℕ) =
        s * 10 ^ e := by
      have hexp : e = -(e.natAbs : ℤ) := by omega
      rw [hexp, zpow_neg, zpow_natCast, Int.natAbs_neg, Int.natAbs_natCast,
        ← Scientific.cast_tenPow, Nat.cast_mul, Nat.cast_mul, mul_div_mul_right _ _ hd,
        div_eq_mul_inv]
    have hpos' : 0 < tenPow e.natAbs * denominator :=
      Nat.mul_pos (Nat.pow_pos (by decide)) Magnitude.denominator_pos
    have hrange : s * denominator < twoPow 53 * (tenPow e.natAbs * denominator) := by
      rw [← Nat.mul_assoc]
      refine Nat.mul_lt_mul_of_pos_right ?_ Magnitude.denominator_pos
      exact hs.trans_le (Nat.le_mul_of_pos_right _ (Nat.pow_pos (by decide)))
    have hround := Magnitude.ofRatio?_of_attracts (by decide) hpos' hrange (hquotient ▸ h)
    have hsign : (-e).toNat = e.natAbs := by omega
    rw [scaled?, if_neg (by omega), if_neg (by omega), if_neg hpos.ne', scaled?.shrink,
      if_pos (by omega), hsign, ha, hb, div, hnumber, hpower, ofRatio, hround]
    rfl
  · have hproduct : ((s * denominator * (tenPow e.natAbs * denominator) : ℕ) : ℚ) /
        (denominator * denominator : ℕ) = s * 10 ^ e := by
      have hexp : e = (e.natAbs : ℤ) := by omega
      have hdd : ((denominator * denominator : ℕ) : ℚ) ≠ 0 := by
        rw [Nat.cast_mul]
        exact mul_ne_zero hd hd
      rw [Nat.mul_mul_mul_comm, Nat.cast_mul, mul_div_assoc, div_self hdd, mul_one, Nat.cast_mul,
        Scientific.cast_tenPow, ← zpow_natCast, ← hexp]
    have hpos' : 0 < denominator * denominator :=
      Nat.mul_pos Magnitude.denominator_pos Magnitude.denominator_pos
    have hrange : s * denominator * (tenPow e.natAbs * denominator) <
        twoPow (53 + 100) * (denominator * denominator) := by
      rw [Nat.mul_mul_mul_comm]
      exact Nat.mul_lt_mul_of_pos_right hsize hpos'
    have hround := Magnitude.ofRatio?_of_attracts (by decide) hpos' hrange (hproduct ▸ h)
    have hsign : e.toNat = e.natAbs := by omega
    rw [scaled?, if_neg (by omega), if_pos hnonneg, hsign, ha, hb, mul, hnumber, hpower, ofRatio,
      hround]
    rfl

end Double

/-! ## Short decimals -/

namespace Scientific

/-- The digits fit a mantissa, the power of ten of the last one is small, and in JSON no zeros are filled
in between the digits and the point. -/
def isShort (sc : Scientific) : Bool :=
  Nat.ofDigitChars 10 sc.digits 0 < twoPow 53 &&
    (sc.exponent + 1 - sc.digits.length).natAbs ≤ 22 &&
    (sc.exponent + 1 < sc.digits.length || 15 < sc.exponent)

end Scientific

namespace Json

variable {n : Numeral} {negative : Bool} {sc : Scientific} {layout : List Char}

theorem floatFrom_of_scaled? {positive : Bool} {s : Nat} {e : Int} {d : Double}
    (h : Double.scaled? s e = some d) (rest : List Char) :
    floatFrom .value positive s e rest = .ok (.float (if positive then d else d.neg), rest) := by
  simp only [floatFrom, h]

/-- If the power of ten is that of the last digit, the numeral has the digits of the decimal. -/
theorem IsLayout.digits_eq (h : IsLayout n negative sc layout)
    (hpower : n.exponent.getD 0 - n.fraction.length = sc.exponent + 1 - sc.digits.length) :
    Nat.ofDigitChars 10 (n.whole ++ n.fraction) 0 = Nat.ofDigitChars 10 sc.digits 0 := by
  have hvalue := h.value_eq
  have hten : (10 : ℚ) ^ (sc.exponent + 1 - sc.digits.length : ℤ) ≠ 0 := by positivity
  have hsign : signOf negative ≠ 0 := by cases negative <;> simp [signOf]
  rw [Numeral.value, Scientific.value, h.negative_eq, hpower, mul_assoc] at hvalue
  exact_mod_cast mul_right_cancel₀ hten (mul_left_cancel₀ hsign hvalue)

end Json

/-- A double with a short decimal is read back as it is. -/
theorem JsonNumber.reread_short (negative : Bool) {m : Magnitude} (hm : 0 < m.mantissa)
    (hshort : (Scientific.shortest .even m).isShort = true) :
    (float (.finite negative m)).reread = .float (.finite negative m) := by
  have hnormal := Scientific.isNormal_shortest .even hm
  have hattracts := (Scientific.attracts_shortest .even hm).1
  obtain ⟨n, hn⟩ := Json.exists_isLayout negative hnormal
    (Scientific.attracts_shortest .even hm).2 (Scientific.exponent_shortest hm)
  have htext : (float (.finite negative m)).text = n.text := by
    rw [hn.text_eq, text, Double.floatJson, if_neg hm.ne']
  generalize Scientific.shortest .even m = sc at hshort hnormal hattracts hn
  simp only [Scientific.isShort, Bool.and_eq_true, Bool.or_eq_true, decide_eq_true_eq] at hshort
  obtain ⟨⟨hdigits, hpower⟩, hplain⟩ := hshort
  have hunit := hn.power_eq.resolve_left (by omega)
  have hpos : 0 < Nat.ofDigitChars 10 sc.digits 0 := by
    obtain ⟨c, cs, hsplit, hzero⟩ := hnormal.first
    rw [hsplit]
    exact (Nat.pow_pos (by decide)).trans_le
      (le_ofDigitChars (hnormal.isDigit c (by simp [hsplit])) hzero cs)
  have hread := Double.scaled?_of_attracts hpos hdigits hpower hattracts
  have hnumber := Json.signedNumber_numeral hn.isFloatText
  rw [hn.digits_eq hunit, hunit, hn.negative_eq] at hnumber
  have hsign : (if (!negative) = true then Double.finite false m else (Double.finite false m).neg) =
      .finite negative m := by
    cases negative <;> rfl
  rw [Json.floatFrom_of_scaled? hread, hsign] at hnumber
  rw [reread, htext, hnumber]

namespace Double

/-- Whether the decimal that a finite double is written as is short. -/
def isShort : Double → Bool
  | .finite _ size => (Scientific.shortest .even size).isShort
  | _ => false

end Double

end ScriptOutline
