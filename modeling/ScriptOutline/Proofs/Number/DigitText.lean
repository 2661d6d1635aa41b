import Mathlib.Data.List.Forall2
import Mathlib.Data.Nat.Digits.Defs
import Mathlib.Tactic.Common
import Mathlib.Tactic.Ring
import ScriptOutline.Number.Reading

/-!
# Digits in a base

What a row of digits denotes, said without reading it: each character is a digit of the base
(`IsDigit`), and the number is that of the digits' values in positional notation (`DigitsDenote`).
The reader of digits finds that number (`digitsValue_of_denote`), in capital and in small letters.
-/

namespace ScriptOutline

/-- The character is the digit of a base that has the given value. Letters may be capital. -/
def IsDigit (base value : Nat) (c : Char) : Prop :=
  value < base ∧ (c = Nat.digitChar value ∨ c = (Nat.digitChar value).toUpper)

instance (base value : Nat) (c : Char) : Decidable (IsDigit base value c) :=
  inferInstanceAs (Decidable (_ ∧ (_ ∨ _)))

/-- The characters are digits of a base and denote a number. -/
def DigitsDenote (base : Nat) (cs : List Char) (n : Nat) : Prop :=
  ∃ values, List.Forall₂ (IsDigit base) values cs ∧ n = Nat.ofDigits base values.reverse

namespace IsDigit

variable {base value : Nat} {c : Char}

/-- What holds of the digits up to some value, in small and in capital letters, holds of all digits
of a base up to that. -/
theorem induction {P : Nat → Char → Prop} {bound : Nat} (hbase : base ≤ bound)
    (hdigits : ∀ v < bound, P v (Nat.digitChar v) ∧ P v (Nat.digitChar v).toUpper)
    (h : IsDigit base value c) : P value c := by
  obtain ⟨hlt, hsmall | hcapital⟩ := h
  · rw [hsmall]
    exact (hdigits value (by omega)).1
  · rw [hcapital]
    exact (hdigits value (by omega)).2

theorem digitValue?_eq (hbase : base ≤ 16) (h : IsDigit base value c) :
    Double.digitValue? c = some value :=
  h.induction (P := fun v c => Double.digitValue? c = some v) hbase (by decide)

theorem toLower (hbase : base ≤ 16) (h : IsDigit base value c) : IsDigit base value c.toLower := by
  have hlower : c.toLower = Nat.digitChar value :=
    h.induction (P := fun v c => c.toLower = Nat.digitChar v) hbase (by decide)
  exact ⟨h.1, .inl hlower⟩

/-- No digit is a mark that stands beside digits. -/
theorem notMem_marks (hbase : base ≤ 16) (h : IsDigit base value c) :
    c ∉ ['_', 'n', '{', '}'] :=
  h.induction (P := fun _ c => c ∉ ['_', 'n', '{', '}']) hbase (by decide)

/-- Every character of a row of digits is one. -/
theorem exists_of_mem {values : List Nat} {cs : List Char}
    (h : List.Forall₂ (IsDigit base) values cs) (hc : c ∈ cs) : ∃ value, IsDigit base value c := by
  induction h with
  | nil => cases hc
  | cons hdigit hrest ih =>
    rcases List.mem_cons.1 hc with rfl | hmem
    · exact ⟨_, hdigit⟩
    · exact ih hmem

/-- No mark stands in a row of digits. -/
theorem notMem_digits (hbase : base ≤ 16) {values : List Nat} {cs : List Char}
    (h : List.Forall₂ (IsDigit base) values cs) (hc : c ∈ ['_', 'n', '{', '}']) : c ∉ cs := by
  intro hmem
  obtain ⟨value, hdigit⟩ := exists_of_mem h hmem
  exact hdigit.notMem_marks hbase hc

end IsDigit

namespace Double

/-- Reading on from a number: what was read moves up by the places of the digits. -/
theorem foldl_digits {base : Nat} (hbase : base ≤ 16) {values : List Nat} {cs : List Char}
    (h : List.Forall₂ (IsDigit base) values cs) (start : Nat) :
    cs.foldl (fun n c => n * base + (digitValue? c).getD 0) start =
      start * base ^ cs.length + Nat.ofDigits base values.reverse := by
  induction h generalizing start with
  | nil => simp
  | cons hdigit hrest ih =>
    rename_i value c values cs
    have hvalue : (digitValue? c).getD 0 = value := by
      rw [hdigit.digitValue?_eq hbase, Option.getD_some]
    have hlength : values.reverse.length = cs.length := by rw [List.length_reverse, hrest.length_eq]
    rw [List.foldl_cons, hvalue, ih, List.reverse_cons, Nat.ofDigits_append, Nat.ofDigits_singleton,
      hlength, List.length_cons]
    ring

theorem digitsValue_of_forall₂ {base : Nat} (hbase : base ≤ 16) {values : List Nat} {cs : List Char}
    (h : List.Forall₂ (IsDigit base) values cs) :
    digitsValue base cs = Nat.ofDigits base values.reverse := by
  rw [digitsValue, foldl_digits hbase h, Nat.zero_mul, Nat.zero_add]

/-- The reader of digits finds the number that they denote. -/
theorem digitsValue_of_denote {base n : Nat} (hbase : base ≤ 16) {cs : List Char}
    (h : DigitsDenote base cs n) : digitsValue base cs = n := by
  obtain ⟨values, hdigits, rfl⟩ := h
  exact digitsValue_of_forall₂ hbase hdigits

end Double

end ScriptOutline
