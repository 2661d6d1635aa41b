import Mathlib.Tactic.Common
import ScriptOutline.Proofs.Number.DigitText
import ScriptOutline.Proofs.Number.Nearest
import ScriptOutline.Script.Value

/-!
# Integer literals in a radix

`Script.IsInteger` says which texts are integer literals in hexadecimal, octal or binary digits, and
which integer each of them denotes: a zero, a letter for the radix, digits that single underscores
may divide and perhaps the mark of a big integer, or a zero with octal digits behind it.

An integer of at most 64 bits has the nearest double as its value. A larger one has no number as its
value and is kept as its text.
-/

namespace ScriptOutline

namespace Script

/-- The letters after the zero, and the radix that each of them stands for. -/
def radixLetters : List (Char × Nat) :=
  [('x', 16), ('X', 16), ('o', 8), ('O', 8), ('b', 2), ('B', 2)]

/-- Digits of a radix, at least one, with single underscores between some of them. -/
inductive Divided (base : Nat) : List Nat → List Char → Prop where
  | last {value : Nat} {c : Char} : IsDigit base value c → Divided base [value] [c]
  | next {value : Nat} {c : Char} {values : List Nat} {cs : List Char} :
    IsDigit base value c → Divided base values cs → Divided base (value :: values) (c :: cs)
  | divided {value : Nat} {c : Char} {values : List Nat} {cs : List Char} :
    IsDigit base value c → Divided base values cs → Divided base (value :: values) (c :: '_' :: cs)

/-- The text is an integer literal in a radix and denotes the integer. -/
inductive IsInteger : List Char → Nat → Prop where
  /-- A letter names the radix. -/
  | named {letter : Char} {base : Nat} {values : List Nat} {cs mark : List Char} :
    (letter, base) ∈ radixLetters → Divided base values cs → mark ∈ [[], ['n']] →
      IsInteger ('0' :: letter :: (cs ++ mark)) (Nat.ofDigits base values.reverse)
  /-- A zero in front of octal digits names the radix. -/
  | legacy {values : List Nat} {cs : List Char} :
    cs ≠ [] → List.Forall₂ (IsDigit 8) values cs →
      IsInteger ('0' :: cs) (Nat.ofDigits 8 values.reverse)

theorem base_le_of_mem {letter : Char} {base : Nat} (h : (letter, base) ∈ radixLetters) :
    base ≤ 16 := by
  have hall : ∀ p ∈ radixLetters, p.2 ≤ 16 := by decide
  exact hall _ h

theorem filter_cons_other {c : Char} (h : c ≠ '_') (cs : List Char) :
    (c :: cs).filter (· != '_') = c :: cs.filter (· != '_') := by
  have hkept : (c != '_') = true := bne_iff_ne.2 h
  rw [List.filter_cons, if_pos hkept]

theorem filter_of_notMem {cs : List Char} (h : '_' ∉ cs) : cs.filter (· != '_') = cs := by
  rw [List.filter_eq_self]
  intro c hc
  have hother : c ≠ '_' := fun heq => h (heq ▸ hc)
  exact bne_iff_ne.2 hother

/-- Without the underscores there are digits only, and at least one. -/
theorem Divided.digits {base : Nat} {values : List Nat} {cs : List Char} (hbase : base ≤ 16)
    (h : Divided base values cs) :
    List.Forall₂ (IsDigit base) values (cs.filter (· != '_')) ∧ cs.filter (· != '_') ≠ [] := by
  have hkept {value : Nat} {c : Char} (hc : IsDigit base value c) (cs : List Char) :
      (c :: cs).filter (· != '_') = c :: cs.filter (· != '_') :=
    filter_cons_other (fun heq => hc.notMem_marks hbase (heq ▸ List.mem_cons_self)) cs
  induction h with
  | last hdigit =>
    rw [hkept hdigit]
    exact ⟨.cons hdigit .nil, List.cons_ne_nil _ _⟩
  | next hdigit hrest ih =>
    rw [hkept hdigit]
    exact ⟨.cons hdigit ih.1, List.cons_ne_nil _ _⟩
  | divided hdigit hrest ih =>
    rw [hkept hdigit, List.filter_cons_of_neg (by decide)]
    exact ⟨.cons hdigit ih.1, List.cons_ne_nil _ _⟩

/-- A mark is taken off the end, and nothing else is. -/
theorem withoutMark_append {cs mark : List Char} (hcs : 'n' ∉ cs) (hmark : mark ∈ [[], ['n']]) :
    withoutMark (cs ++ mark) = cs := by
  have hcases : mark = [] ∨ mark = ['n'] := by simpa using hmark
  rcases hcases with rfl | rfl
  · rw [List.append_nil, withoutMark]
    split
    · next rest hreverse =>
      have hmem : 'n' ∈ cs.reverse := hreverse ▸ List.mem_cons_self
      exact absurd (List.mem_reverse.1 hmem) hcs
    · rfl
  · rw [withoutMark, List.reverse_append, List.reverse_singleton, List.singleton_append]
    exact List.reverse_reverse cs

/-- Digits that fit 64 bits are read as the nearest double, and others are not read. -/
theorem radixValue?_lowerAscii {base : Nat} {values : List Nat} {cs : List Char} (hbase : base ≤ 16)
    (h : List.Forall₂ (IsDigit base) values cs) (hne : cs ≠ []) :
    radixValue? base (Double.lowerAscii cs) =
      if 2 ^ 64 ≤ Nat.ofDigits base values.reverse then none
      else some (.ofNat (Nat.ofDigits base values.reverse)) := by
  have hlower : List.Forall₂ (IsDigit base) values (Double.lowerAscii cs) :=
    List.forall₂_map_right_iff.2 (h.imp fun _ _ hdigit => hdigit.toLower hbase)
  have hempty : (Double.lowerAscii cs).isEmpty = false := by
    rw [Double.lowerAscii, List.isEmpty_map, List.isEmpty_eq_false_iff]
    exact hne
  simp only [radixValue?, Double.digitsValue_of_forall₂ hbase hlower, hempty, Bool.false_or,
    decide_eq_true_eq]
  rfl

theorem plainNumber?_named {letter : Char} {base : Nat} (h : (letter, base) ∈ radixLetters)
    (digits : List Char) :
    plainNumber? ('0' :: letter.toLower :: digits) = radixValue? base digits := by
  have hcases : (letter, base) = ('x', 16) ∨ (letter, base) = ('X', 16) ∨
      (letter, base) = ('o', 8) ∨ (letter, base) = ('O', 8) ∨
      (letter, base) = ('b', 2) ∨ (letter, base) = ('B', 2) := by
    simpa only [radixLetters, List.mem_cons, List.not_mem_nil, or_false] using h
  rcases hcases with heq | heq | heq | heq | heq | heq <;>
    · obtain ⟨rfl, rfl⟩ := Prod.mk.inj heq
      rfl

/-- A zero with octal digits behind it is no number in a named radix. -/
theorem plainNumber?_legacy {digits : List Char} (hne : digits ≠ [])
    (h : ∀ c ∈ digits, '0' ≤ c ∧ c ≤ '7') :
    plainNumber? ('0' :: digits) = radixValue? 8 digits := by
  have hoctal : isLegacyOctal ('0' :: digits) = true := by
    obtain ⟨d, rest, rfl⟩ := List.exists_cons_of_ne_nil hne
    rw [isLegacyOctal, List.all_eq_true]
    intro c hc
    simpa using h c hc
  unfold plainNumber?
  split
  · next heq =>
    exact absurd (h 'x' ((List.cons.inj heq).2 ▸ List.mem_cons_self)) (by decide)
  · next heq =>
    exact absurd (h 'o' ((List.cons.inj heq).2 ▸ List.mem_cons_self)) (by decide)
  · next heq =>
    exact absurd (h 'b' ((List.cons.inj heq).2 ▸ List.mem_cons_self)) (by decide)
  · rw [if_pos hoctal]
    rfl

/-- What an integer literal is read as, once separators, mark and capital letters are gone. -/
theorem plainNumber?_of_isInteger {text : List Char} {n : Nat} (h : IsInteger text n) :
    plainNumber? (Double.lowerAscii (withoutMark (text.filter (· != '_')))) =
      if 2 ^ 64 ≤ n then none else some (.ofNat n) := by
  cases h with
  | named hletter hdivided hmark =>
    rename_i letter base values cs mark
    have hbase := base_le_of_mem hletter
    obtain ⟨hdigits, hne⟩ := hdivided.digits hbase
    have hother : letter ≠ '_' ∧ letter ≠ 'n' := by
      have hall : ∀ p ∈ radixLetters, p.1 ≠ '_' ∧ p.1 ≠ 'n' := by decide
      exact hall _ hletter
    have hmarked : '_' ∉ mark := by
      have hall : ∀ m ∈ [[], ['n']], '_' ∉ m := by decide
      exact hall _ hmark
    have hfilter : ('0' :: letter :: (cs ++ mark)).filter (· != '_') =
        '0' :: letter :: cs.filter (· != '_') ++ mark := by
      rw [filter_cons_other (by decide), filter_cons_other hother.1, List.filter_append,
        filter_of_notMem hmarked]
      rfl
    have hunmarked : 'n' ∉ '0' :: letter :: cs.filter (· != '_') := by
      have hdigitless : 'n' ∉ cs.filter (· != '_') :=
        IsDigit.notMem_digits hbase hdigits (by decide)
      simp [hdigitless, hother.2.symm]
    rw [hfilter, withoutMark_append hunmarked hmark]
    exact (plainNumber?_named hletter _).trans (radixValue?_lowerAscii hbase hdigits hne)
  | legacy hne hdigits =>
    rename_i values cs
    have hbase : 8 ≤ 16 := by decide
    have hundivided : '_' ∉ '0' :: cs := by
      have hdigitless : '_' ∉ cs := IsDigit.notMem_digits hbase hdigits (by decide)
      simp [hdigitless]
    have hunmarked : 'n' ∉ '0' :: cs := by
      have hdigitless : 'n' ∉ cs := IsDigit.notMem_digits hbase hdigits (by decide)
      simp [hdigitless]
    have hoctal : ∀ c ∈ Double.lowerAscii cs, '0' ≤ c ∧ c ≤ '7' := by
      intro c hc
      obtain ⟨d, hd, rfl⟩ := List.mem_map.1 hc
      obtain ⟨value, hdigit⟩ := IsDigit.exists_of_mem hdigits hd
      exact hdigit.induction (P := fun _ d => '0' ≤ d.toLower ∧ d.toLower ≤ '7') (Nat.le_refl 8)
        (by decide)
    have hlower : Double.lowerAscii cs ≠ [] := by
      rw [Double.lowerAscii, Ne, List.map_eq_nil_iff]
      exact hne
    have hmark : withoutMark ('0' :: cs) = '0' :: cs := by
      have hnone : withoutMark ('0' :: cs ++ []) = '0' :: cs :=
        withoutMark_append hunmarked (by decide)
      rwa [List.append_nil] at hnone
    rw [filter_of_notMem hundivided, hmark]
    exact (plainNumber?_legacy hlower hoctal).trans (radixValue?_lowerAscii hbase hdigits hne)

/-- An integer literal that fits 64 bits has the nearest double as its value, and a larger one is
kept as its text. -/
theorem numberValue_integer {source : String} {n : Nat} (h : IsInteger source.toList n) :
    (n < 2 ^ 64 → ∃ d : Double, numberValue source = .number d ∧ d.IsNearest n) ∧
      (2 ^ 64 ≤ n → numberValue source = .string source) := by
  have hplain := plainNumber?_of_isInteger h
  constructor
  · intro hfits
    rw [if_neg (Nat.not_le.2 hfits)] at hplain
    have hk : 64 ≤ 1022 := by decide
    exact ⟨.ofNat n, by rw [numberValue, hplain], Double.ofNat_isNearest hk hfits⟩
  · intro hlarge
    rw [if_pos hlarge] at hplain
    rw [numberValue, hplain]

theorem isInteger_capital : IsInteger "0XF_fn".toList 255 :=
  have hletter : ('X', 16) ∈ radixLetters := by decide
  have hdigits : Divided 16 [15, 15] ['F', '_', 'f'] := .divided (by decide) (.last (by decide))
  have hmark : ['n'] ∈ [[], ['n']] := by decide
  .named hletter hdigits hmark

/-- The literal `0XF_fn` has the double next to 255 as its value. -/
theorem numberValue_integer_capital :
    IsInteger "0XF_fn".toList 255 ∧
      ∃ d : Double, numberValue "0XF_fn" = .number d ∧ d.IsNearest (255 : ℕ) :=
  ⟨isInteger_capital, (numberValue_integer isInteger_capital).1 (by decide)⟩

/-- Digits without underscores between them. -/
theorem divided_of_forall₂ {base : Nat} {values : List Nat} {cs : List Char}
    (h : List.Forall₂ (IsDigit base) values cs) (hne : cs ≠ []) : Divided base values cs := by
  induction h with
  | nil => exact absurd rfl hne
  | cons hdigit hrest ih =>
    rename_i value c values cs
    by_cases hlast : cs = []
    · subst hlast
      cases hrest
      exact .last hdigit
    · exact .next hdigit (ih hlast)

/-- Not every integer literal has a number as its value: two to the power 64 has none, be it written
in hexadecimal digits or in octal digits after a zero. -/
theorem integer_kept_as_text :
    (IsInteger "0x10000000000000000".toList (2 ^ 64) ∧
        numberValue "0x10000000000000000" = .string "0x10000000000000000") ∧
      IsInteger "02000000000000000000000".toList (2 ^ 64) ∧
        numberValue "02000000000000000000000" = .string "02000000000000000000000" := by
  have hletter : ('x', 16) ∈ radixLetters := by decide
  have hhex : List.Forall₂ (IsDigit 16) (1 :: List.replicate 16 0) "10000000000000000".toList := by
    decide
  have hoctal : List.Forall₂ (IsDigit 8) (2 :: List.replicate 21 0)
      "2000000000000000000000".toList := by
    decide
  have hmark : [] ∈ [[], ['n']] := by decide
  have hnamed := IsInteger.named hletter (divided_of_forall₂ hhex (by decide)) hmark
  have hlegacy := IsInteger.legacy (by decide) hoctal
  refine ⟨⟨hnamed, ?_⟩, hlegacy, ?_⟩
  · decide
  · decide

end Script

end ScriptOutline
