import Mathlib.Tactic.Common
import ScriptOutline.Number.Double

/-!
# Exact numbers

Rounding changes nothing about a fraction that is the value of a magnitude (`ofRatio?_of_eq`). So the
integer that a whole double is written as has that very double as its nearest one, the sign of zero
apart (`ofInt_sameValue_of_toInt?`).
-/

namespace ScriptOutline

namespace Magnitude

theorem roundHalfEven_mul {n den : Nat} (h : 0 < den) : roundHalfEven (n * den) den = n := by
  unfold roundHalfEven
  simp [h]

theorem numerator_eq_zero_iff (m : Magnitude) : m.numerator = 0 ↔ m.mantissa = 0 := by
  have hpos : twoPow m.shift ≠ 0 := Nat.pos_iff_ne_zero.1 (Nat.two_pow_pos _)
  rw [numerator, Nat.mul_eq_zero]
  exact or_iff_left hpos

/-- The shift can be read off the number of bits of the value: a canonical mantissa has 53 bits
unless nothing is shifted. -/
theorem log2_numerator (m : Magnitude) : Nat.log2 m.numerator + 1 - 53 = m.shift := by
  have hlt : m.mantissa < 2 ^ 53 := m.mantissa_lt
  unfold numerator
  rcases m.normal with hs | hm
  · have h0 : m.mantissa * twoPow m.shift = m.mantissa := by rw [hs]; exact Nat.mul_one _
    rw [h0, hs]
    rcases Nat.eq_zero_or_pos m.mantissa with h | h
    · simp [h]
    · have := (Nat.log2_lt (by omega)).2 hlt
      omega
  · have hle : 2 ^ 52 ≤ m.mantissa := hm
    have hpos : 0 < 2 ^ m.shift := Nat.two_pow_pos _
    have hne : m.mantissa * twoPow m.shift ≠ 0 :=
      Nat.pos_iff_ne_zero.1 (Nat.mul_pos (by omega) hpos)
    have h1 : 52 + m.shift ≤ Nat.log2 (m.mantissa * twoPow m.shift) := by
      rw [Nat.le_log2 hne, Nat.pow_add]
      exact Nat.mul_le_mul_right _ hle
    have h2 : Nat.log2 (m.mantissa * twoPow m.shift) < 53 + m.shift := by
      rw [Nat.log2_lt hne, Nat.pow_add]
      exact Nat.mul_lt_mul_of_pos_right hlt hpos
    omega

theorem ofParts?_self (m : Magnitude) : ofParts? m.mantissa m.shift = some m := by
  unfold ofParts?
  rw [dif_pos ⟨m.mantissa_lt, m.shift_le, m.normal⟩]

/-- Rounding changes nothing about a fraction that is the value of a magnitude. -/
theorem ofRatio?_of_eq (m : Magnitude) {num den : Nat} (hden : 0 < den)
    (h : num * denominator = m.numerator * den) : ofRatio? num den = some m := by
  have hbits : num * denominator / den = m.numerator := by rw [h, Nat.mul_div_cancel _ hden]
  have hround : roundHalfEven (num * denominator) (den * twoPow m.shift) = m.mantissa := by
    rw [h, numerator, Nat.mul_assoc, Nat.mul_comm (twoPow m.shift)]
    exact roundHalfEven_mul (Nat.mul_pos hden (Nat.two_pow_pos _))
  unfold ofRatio?
  simp only [hbits, log2_numerator, hround]
  rw [if_neg (Nat.ne_of_lt m.mantissa_lt), ofParts?_self]

end Magnitude

namespace Double

/-- What a double must be to be written as an integer. -/
theorem toInt?_eq_some {d : Double} {i : Int} (h : d.toInt? = some i) :
    ∃ negative size, d = .finite negative size ∧
      i.natAbs * Magnitude.denominator = size.numerator ∧ i.natAbs < wholeBound ∧
      (decide (i < 0) = negative ∨ size.mantissa = 0) := by
  cases d with
  | infinite s => simp [toInt?] at h
  | nan => simp [toInt?] at h
  | finite negative size =>
    simp only [toInt?] at h
    split at h
    case isFalse => cases h
    case isTrue hwhole =>
      obtain ⟨hmod, hbound⟩ := hwhole
      have hcancel := Nat.div_mul_cancel (Nat.dvd_of_mod_eq_zero hmod)
      have hi := Option.some.inj h
      generalize size.numerator / Magnitude.denominator = whole at hbound hcancel hi
      have habs : i.natAbs = whole := by
        cases negative with
        | false => rw [if_neg Bool.false_ne_true] at hi; omega
        | true => rw [if_pos rfl] at hi; omega
      have hmul : i.natAbs * Magnitude.denominator = size.numerator := by rw [habs]; exact hcancel
      refine ⟨negative, size, rfl, hmul, by rw [habs]; exact hbound, ?_⟩
      rcases Nat.eq_zero_or_pos i.natAbs with h0 | hpos
      · right
        rw [← size.numerator_eq_zero_iff, ← hmul, h0, Nat.zero_mul]
      · left
        cases negative with
        | false =>
          rw [if_neg Bool.false_ne_true] at hi
          exact decide_eq_false (by omega)
        | true =>
          rw [if_pos rfl] at hi
          exact decide_eq_true (by omega)

/-- Both zeros are the integer zero. -/
theorem toInt?_of_mantissa {m : Magnitude} (h : m.mantissa = 0) (negative : Bool) :
    (Double.finite negative m).toInt? = some 0 := by
  have hnumerator : m.numerator = 0 := by rw [Magnitude.numerator, h, Nat.zero_mul]
  rw [toInt?, hnumerator, Nat.zero_mod, Nat.zero_div, if_pos ⟨rfl, by decide⟩]
  cases negative <;> rfl

/-- The integer that a double is written as has that double as its nearest one. -/
theorem ofInt_sameValue_of_toInt? {d : Double} {i : Int} (h : d.toInt? = some i) :
    (ofInt i).sameValue d = true := by
  obtain ⟨negative, size, hd, hsize⟩ := toInt?_eq_some h
  have hmul := hsize.1
  have hsign := hsize.2.2
  rw [hd]
  have hone : i.natAbs * Magnitude.denominator = size.numerator * 1 :=
    hmul.trans (Nat.mul_one _).symm
  have hnearest : ofInt i = .finite (decide (i < 0)) size := by
    rw [ofInt, ofRatio, size.ofRatio?_of_eq Nat.one_pos hone, ofSize?]
  rw [hnearest]
  simp only [sameValue, beq_self_eq_true, Bool.true_and]
  rcases hsign with hs | hz
  · simp [hs]
  · simp [hz]

end Double

end ScriptOutline
