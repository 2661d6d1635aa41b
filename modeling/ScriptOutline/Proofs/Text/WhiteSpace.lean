import Mathlib.Data.List.DropRight
import Mathlib.Tactic.Common
import ScriptOutline.Text.Blank

/-!
# White space and trimming

Which characters are white space, and what trimming leaves of a text: what is cut off is white space,
and what is left neither begins nor ends with it.
-/

namespace ScriptOutline

/-! ## The characters -/

/-- The codes of the characters that are white space. -/
theorem isWhiteSpace_iff (c : Char) : isWhiteSpace c = true ↔ c.toNat ∈ [0x09, 0x0A, 0x0B, 0x0C, 0x0D,
    0x20, 0x85, 0xA0, 0x1680, 0x2000, 0x2001, 0x2002, 0x2003, 0x2004, 0x2005, 0x2006, 0x2007, 0x2008,
    0x2009, 0x200A, 0x2028, 0x2029, 0x202F, 0x205F, 0x3000] := by
  simp only [isWhiteSpace, List.mem_cons, List.not_mem_nil, or_false, Bool.or_eq_true,
    Bool.and_eq_true, decide_eq_true_eq, beq_iff_eq]
  omega

/-- What ASCII can print apart from the space is no white space. -/
theorem isWhiteSpace_of_printed {c : Char} (h : 0x20 < c.toNat) (h' : c.toNat < 0x7F) :
    isWhiteSpace c = false := by
  rw [Bool.eq_false_iff, Ne, isWhiteSpace_iff]
  simp only [List.mem_cons, List.not_mem_nil, or_false]
  omega

theorem isWhiteSpace_of_isAlphanum {c : Char} (h : c.isAlphanum = true) : isWhiteSpace c = false := by
  have hranges : (decide (c.val ≥ 'A'.val ∧ c.val ≤ 'Z'.val) ||
      (decide (c.val ≥ 'a'.val) && decide (c.val ≤ 'z'.val)) ||
        decide (c.val ≥ '0'.val) && decide (c.val ≤ '9'.val)) = true := h
  simp only [Bool.or_eq_true, Bool.and_eq_true, decide_eq_true_eq, ge_iff_le,
    UInt32.le_iff_toNat_le] at hranges
  change ((65 ≤ c.toNat ∧ c.toNat ≤ 90) ∨ (97 ≤ c.toNat ∧ c.toNat ≤ 122)) ∨
    (48 ≤ c.toNat ∧ c.toNat ≤ 57) at hranges
  exact isWhiteSpace_of_printed (by omega) (by omega)

/-- The bar between two columns is no white space. -/
theorem isWhiteSpace_bar : isWhiteSpace '|' = false := isWhiteSpace_of_printed (by decide) (by decide)

/-! ## The end of a text -/

/-- Only white space is cut off the end of a text. -/
theorem eq_trimEnd_append (text : List Char) :
    ∃ blank, text = trimEnd text ++ blank ∧ ∀ c ∈ blank, isWhiteSpace c = true :=
  ⟨text.rtakeWhile isWhiteSpace, List.rdropWhile_append_rtakeWhile.symm,
    fun _ hc => List.mem_rtakeWhile_imp hc⟩

/-- No white space is left at the end of a text. -/
theorem isWhiteSpace_getLast_trimEnd {text : List Char} {c : Char}
    (h : (trimEnd text).getLast? = some c) : isWhiteSpace c = false := by
  have hne : text.rdropWhile isWhiteSpace ≠ [] := by
    intro hnil
    rw [show trimEnd text = [] from hnil] at h
    cases h
  obtain rfl := Option.some.inj ((List.getLast?_eq_some_getLast hne).symm.trans h)
  exact Bool.eq_false_iff.2 (List.rdropWhile_last_not isWhiteSpace text hne)

/-! ## Both ends -/

/-- A text is what is left of another one without the white space around it. -/
structure Trims (raw text : List Char) : Prop where
  cut : ∃ before after, raw = before ++ text ++ after ∧
    (∀ c ∈ before, isWhiteSpace c = true) ∧ ∀ c ∈ after, isWhiteSpace c = true
  first : ∀ c, text.head? = some c → isWhiteSpace c = false
  last : ∀ c, text.getLast? = some c → isWhiteSpace c = false

end ScriptOutline
