import Mathlib.Tactic.Common
import ScriptOutline.Json.Reader
import ScriptOutline.Json.Writer

/-!
# Reading numbers back

A number in a document is followed by a comma, a bracket, a blank or nothing, and none of these can
continue it. So what a number is read as does not depend on what follows it, and it is enough to know
what becomes of its text on its own. An integer of 64 bits is read back as itself.
-/

namespace ScriptOutline

namespace Json

/-- What follows a number: nothing that could continue it. -/
def EndsNumber (rest : List Char) : Prop :=
  ∀ c ∈ rest.head?, c.isDigit = false ∧ c ≠ '.' ∧ c ≠ 'e' ∧ c ≠ 'E'

theorem endsNumber_nil : EndsNumber [] := nofun

theorem endsNumber_cons {c : Char} {cs : List Char}
    (h : c.isDigit = false ∧ c ≠ '.' ∧ c ≠ 'e' ∧ c ≠ 'E') : EndsNumber (c :: cs) := by
  intro d hd
  obtain rfl := Option.some.inj hd
  exact h

/-- What is read at the start of a text stays the same if the text goes on in the given way. -/
def Stable {α : Type} (rest : List Char) (read : List Char → Read α) : Prop :=
  ∀ {cs a r}, read cs = .ok (a, r) → read (cs ++ rest) = .ok (a, r ++ rest)

variable {rest : List Char}

theorem EndsNumber.not_digit (h : EndsNumber rest) : ∀ c ∈ rest.head?, c.isDigit = false :=
  fun c hc => (h c hc).1

theorem takeDigits_append (hrest : ∀ c ∈ rest.head?, c.isDigit = false) (s : Nat)
    (cs : List Char) :
    takeDigits s (cs ++ rest) =
      ((takeDigits s cs).1, (takeDigits s cs).2.1, (takeDigits s cs).2.2 ++ rest) := by
  induction cs generalizing s with
  | nil =>
    cases rest with
    | nil => rfl
    | cons c rest => simp [takeDigits, hrest c rfl]
  | cons c cs ih =>
    rw [List.cons_append, takeDigits, takeDigits]
    by_cases hdigit : c.isDigit = true
    · simp only [if_pos hdigit]
      split
      · simp only [ih]
      · rfl
    · simp only [if_neg hdigit, List.cons_append]

theorem exponentDigits_append (hrest : EndsNumber rest) (value : Nat) (cs : List Char) :
    exponentDigits value (cs ++ rest) =
      ((exponentDigits value cs).1, (exponentDigits value cs).2 ++ rest) := by
  induction cs generalizing value with
  | nil =>
    cases rest with
    | nil => rfl
    | cons c rest => simp [exponentDigits, (hrest c rfl).1]
  | cons c cs ih =>
    rw [List.cons_append, exponentDigits, exponentDigits]
    by_cases hdigit : c.isDigit = true
    · simp only [if_pos hdigit]
      split
      · simp only [ih]
      · rfl
    · simp only [if_neg hdigit, List.cons_append]

theorem dropDigits_append (hrest : EndsNumber rest) (cs : List Char) :
    (cs ++ rest).dropWhile Char.isDigit = cs.dropWhile Char.isDigit ++ rest := by
  rw [List.dropWhile_append]
  split
  · next hall =>
    rw [List.isEmpty_iff.1 hall, List.nil_append]
    cases rest with
    | nil => rfl
    | cons c rest => rw [List.dropWhile_cons_of_neg (by rw [(hrest c rfl).1]; decide)]
  · rfl

theorem takeWhileDigits_append (hrest : EndsNumber rest) (cs : List Char) :
    (cs ++ rest).takeWhile Char.isDigit = cs.takeWhile Char.isDigit := by
  induction cs with
  | nil =>
    cases rest with
    | nil => rfl
    | cons c rest => rw [List.nil_append, List.takeWhile_cons_of_neg (by rw [(hrest c rfl).1]; decide)]; rfl
  | cons c cs ih =>
    by_cases hdigit : c.isDigit = true
    · rw [List.cons_append, List.takeWhile_cons_of_pos hdigit, List.takeWhile_cons_of_pos hdigit, ih]
    · rw [List.cons_append, List.takeWhile_cons_of_neg hdigit, List.takeWhile_cons_of_neg hdigit]

/-- The parts of a float decide its value, whatever follows. -/
theorem stable_floatFrom (positive : Bool) (s : Nat) (e : Int) :
    Stable rest (floatFrom .value positive s e) := by
  intro cs m r h
  unfold floatFrom at h ⊢
  split at h
  · next hpurpose => cases hpurpose
  · obtain ⟨rfl, rfl⟩ := Prod.mk.inj (Except.ok.inj h)
    rfl
  · cases h

theorem exponentSign_append {cs : List Char} (hcs : cs ≠ []) :
    exponentSign (cs ++ rest) = ((exponentSign cs).1, (exponentSign cs).2 ++ rest) := by
  obtain ⟨c, cs, rfl⟩ := List.exists_cons_of_ne_nil hcs
  by_cases hplus : c = '+'
  · subst hplus
    rfl
  by_cases hminus : c = '-'
  · subst hminus
    rfl
  have hother : ∀ ds, exponentSign (c :: ds) = (true, c :: ds) := by
    intro ds
    unfold exponentSign
    split
    · next heq => exact absurd (List.cons.inj heq).1 hplus
    · next heq => exact absurd (List.cons.inj heq).1 hminus
    · rfl
  rw [List.cons_append, hother, hother]
  rfl

theorem stable_exponentPart (hrest : EndsNumber rest) (positive : Bool) (s : Nat) (e : Int) :
    Stable rest (exponentPart .value positive s e) := by
  intro cs m r h
  cases cs with
  | nil => cases h
  | cons letter cs =>
    by_cases hcs : cs = []
    · subst hcs
      cases h
    · have hsign : exponentSign (cs ++ rest) = _ := exponentSign_append hcs
      unfold exponentPart at h ⊢
      simp only [List.drop_succ_cons, List.drop_zero, List.cons_append] at h ⊢
      rw [hsign]
      generalize exponentSign cs = sign at h ⊢
      obtain ⟨grows, ds⟩ := sign
      cases ds with
      | nil => cases h
      | cons c ds =>
        simp only [List.cons_append] at h ⊢
        split at h
        · cases h
        · next hdigit =>
          rw [if_neg hdigit, exponentDigits_append hrest]
          generalize exponentDigits (c.toNat - '0'.toNat) ds = digits at h ⊢
          obtain ⟨value | value, tail⟩ := digits
          · simp only at h ⊢
            split at h
            · cases h
            · next hsmall =>
              rw [if_neg hsmall, dropDigits_append hrest]
              exact stable_floatFrom positive 0 0 h
          · exact stable_floatFrom positive s _ h

theorem stable_maybeExponent (hrest : EndsNumber rest) (positive : Bool) (s : Nat) (e : Int) :
    Stable rest (maybeExponent .value positive s e) := by
  intro cs m r h
  cases cs with
  | nil =>
    have hstable : Stable rest (floatFrom .value positive s e) := stable_floatFrom positive s e
    have hfloat := hstable h
    cases rest with
    | nil => exact hfloat
    | cons c rest =>
      obtain ⟨-, -, he, hE⟩ := hrest c rfl
      rw [List.nil_append, maybeExponent, if_neg (by simp [he, hE])]
      exact hfloat
  | cons c cs =>
    rw [List.cons_append]
    rw [maybeExponent] at h ⊢
    split
    · next hletter =>
      rw [if_pos hletter] at h
      exact stable_exponentPart hrest positive s e h
    · next hletter =>
      rw [if_neg hletter] at h
      exact stable_floatFrom positive s e h

theorem stable_fractionPart (hrest : EndsNumber rest) (positive : Bool) (s : Nat) (e : Int) :
    Stable rest (fractionPart .value positive s e) := by
  intro cs m r h
  cases cs with
  | nil => cases h
  | cons point cs =>
    unfold fractionPart at h ⊢
    simp only [List.drop_succ_cons, List.drop_zero, List.cons_append] at h ⊢
    rw [takeDigits_append hrest.not_digit]
    generalize takeDigits s cs = digits at h ⊢
    obtain ⟨s', count, tail⟩ := digits
    cases tail with
    | nil =>
      simp only [List.nil_append] at h ⊢
      split at h
      · cases h
      · next hcount =>
        have hexp := stable_maybeExponent hrest positive s' _ h
        cases rest with
        | nil =>
          simp only [if_neg hcount]
          exact hexp
        | cons c rest =>
          have hdigit : ¬c.isDigit = true := by
            rw [(hrest c rfl).1]
            decide
          simp only [if_neg hdigit, if_neg hcount]
          exact hexp
    | cons c tail =>
      simp only [List.cons_append] at h ⊢
      split at h
      · next hdigit =>
        rw [if_pos hdigit, ← List.cons_append, dropDigits_append hrest]
        exact stable_maybeExponent hrest positive s' _ h
      · next hdigit =>
        split at h
        · cases h
        · next hcount =>
          rw [if_neg hdigit, if_neg hcount]
          exact stable_maybeExponent hrest positive s' _ h

theorem afterInteger_whole {cs : List Char} (h : ∀ c ∈ cs.head?, c ≠ '.' ∧ c ≠ 'e' ∧ c ≠ 'E')
    (positive : Bool) (s : Nat) :
    afterInteger .value positive s cs = .ok (wholeNumber positive s, cs) := by
  unfold afterInteger
  split
  · exact absurd rfl (h '.' rfl).1
  · exact absurd rfl (h 'e' rfl).2.1
  · exact absurd rfl (h 'E' rfl).2.2
  · rfl

theorem stable_afterInteger (hrest : EndsNumber rest) (positive : Bool) (s : Nat) :
    Stable rest (afterInteger .value positive s) := by
  intro cs m r h
  by_cases hwhole : ∀ c ∈ cs.head?, c ≠ '.' ∧ c ≠ 'e' ∧ c ≠ 'E'
  · rw [afterInteger_whole hwhole] at h
    obtain ⟨rfl, rfl⟩ := Prod.mk.inj (Except.ok.inj h)
    refine afterInteger_whole (fun c hc => ?_) positive s
    cases cs with
    | nil => exact (hrest c hc).2
    | cons d cs => exact hwhole c hc
  · obtain ⟨c, cs, rfl⟩ : ∃ c cs', cs = c :: cs' := by
      cases cs with
      | nil => exact absurd nofun hwhole
      | cons c cs => exact ⟨c, cs, rfl⟩
    have hhead : c = '.' ∨ c = 'e' ∨ c = 'E' := by
      by_contra hno
      refine hwhole fun d hd => ?_
      obtain rfl := Option.some.inj hd
      simpa only [not_or] using hno
    rcases hhead with rfl | rfl | rfl
    · exact stable_fractionPart hrest positive s 0 h
    · exact stable_exponentPart hrest positive s 0 h
    · exact stable_exponentPart hrest positive s 0 h

theorem stable_afterDigits (hrest : EndsNumber rest) (positive : Bool) (s : Nat) :
    Stable rest (afterDigits .value positive s) := by
  intro cs m r h
  unfold afterDigits at h ⊢
  simp only [takeWhileDigits_append hrest, dropDigits_append hrest]
  simp only at h
  split at h
  · next hnone =>
    rw [if_pos hnone]
    exact stable_afterInteger hrest positive s h
  · next hmore =>
    rw [if_neg hmore]
    generalize cs.dropWhile Char.isDigit = tail at h ⊢
    by_cases hpoint : ∃ more, tail = '.' :: more
    · obtain ⟨more, rfl⟩ := hpoint
      exact stable_fractionPart hrest positive s _ h
    · have hother : ∀ more, tail ++ rest ≠ '.' :: more := by
        intro more heq
        cases tail with
        | nil =>
          rw [List.nil_append] at heq
          exact (hrest '.' (by rw [heq]; rfl)).2.1 rfl
        | cons c tail =>
          obtain ⟨rfl, -⟩ := List.cons.inj heq
          exact hpoint ⟨tail, rfl⟩
      split at h
      · exact absurd ⟨_, rfl⟩ hpoint
      · exact stable_maybeExponent hrest positive s _ h

/-- A number that does not begin with a zero. -/
theorem numberText_digit {c : Char} (hzero : c ≠ '0') (hdigit : c.isDigit = true) (positive : Bool)
    (cs : List Char) :
    numberText .value positive (c :: cs) =
      afterDigits .value positive (takeDigits (c.toNat - '0'.toNat) cs).1
        (takeDigits (c.toNat - '0'.toNat) cs).2.2 := by
  rw [numberText.eq_4 _ _ _ _ hzero, hdigit]
  rfl

/-- What a number is read as does not depend on what follows it. -/
theorem stable_numberText (hrest : EndsNumber rest) (positive : Bool) :
    Stable rest (numberText .value positive) := by
  intro cs m r h
  cases cs with
  | nil => cases h
  | cons c cs =>
    by_cases hzero : c = '0'
    · subst hzero
      cases cs with
      | nil =>
        rw [numberText] at h
        have hafter := stable_afterInteger hrest positive 0 h
        rw [List.nil_append] at hafter
        cases rest with
        | nil => exact hafter
        | cons d rest =>
          rw [List.cons_append, List.nil_append, numberText, if_neg (by simp [(hrest d rfl).1])]
          exact hafter
      | cons d cs =>
        rw [numberText] at h
        rw [List.cons_append, List.cons_append, numberText]
        split at h
        · cases h
        · next hdigit =>
          rw [if_neg hdigit]
          exact stable_afterInteger hrest positive 0 h
    · by_cases hdigit : c.isDigit = true
      · rw [numberText_digit hzero hdigit] at h
        rw [List.cons_append, numberText_digit hzero hdigit, takeDigits_append hrest.not_digit]
        exact stable_afterDigits hrest positive _ h
      · rw [numberText.eq_4 _ _ _ _ hzero, if_pos (by simp [hdigit])] at h
        cases h

theorem signedNumber_plain {c : Char} (h : c ≠ '-') (purpose : Purpose) (cs : List Char) :
    signedNumber purpose (c :: cs) = numberText purpose true (c :: cs) :=
  signedNumber.eq_2 purpose (c :: cs) fun _ heq => h (List.cons.inj heq).1

theorem stable_signedNumber (hrest : EndsNumber rest) : Stable rest (signedNumber .value) := by
  intro cs m r h
  cases cs with
  | nil => cases h
  | cons c cs =>
    by_cases hminus : c = '-'
    · subst hminus
      exact stable_numberText hrest false h
    · rw [signedNumber_plain hminus] at h
      rw [List.cons_append, signedNumber_plain hminus]
      exact stable_numberText hrest true h

/-! ## Integers -/

/-- Digits that fit a word are all taken. -/
theorem takeDigits_all (s : Nat) (cs : List Char) (hdigits : ∀ c ∈ cs, c.isDigit = true)
    (hfits : Nat.ofDigitChars 10 cs s ≤ wordMax) :
    takeDigits s cs = (Nat.ofDigitChars 10 cs s, cs.length, []) := by
  induction cs generalizing s with
  | nil => rfl
  | cons c cs ih =>
    rw [Nat.ofDigitChars_cons, Nat.mul_comm] at hfits ⊢
    have hgrows : Nat.ofDigitChars 10 cs (s * 10 + (c.toNat - '0'.toNat)) = _ :=
      Nat.ofDigitChars_eq_ofDigitChars_zero
    have hnext : s * 10 + (c.toNat - '0'.toNat) ≤ wordMax := by
      refine Nat.le_trans ?_ hfits
      rw [hgrows]
      exact Nat.le_add_right_of_le (Nat.le_mul_of_pos_left _ (Nat.pos_of_neZero _))
    have hrest := ih _ (fun d hd => hdigits d (List.mem_cons_of_mem c hd)) hfits
    rw [takeDigits, if_pos (hdigits c List.mem_cons_self), if_pos hnext, hrest]
    rfl

/-- The digits of a positive number do not begin with a zero. -/
theorem toDigits_eq_cons {n : Nat} (hn : 0 < n) : ∃ c cs, Nat.toDigits 10 n = c :: cs ∧ c ≠ '0' := by
  induction n using Nat.strongRecOn with
  | _ n ih =>
    rw [Nat.toDigits_eq_if (by decide)]
    split
    · exact ⟨n.digitChar, [], rfl, by simpa using Nat.ne_of_gt hn⟩
    · obtain ⟨c, cs, hcs, hc⟩ := ih (n / 10) (by omega) (by omega)
      exact ⟨c, cs ++ [(n % 10).digitChar], by rw [hcs]; rfl, hc⟩

/-- The digits of a number that fits a word are read as that number. -/
theorem numberText_toDigits {n : Nat} (hn : n ≤ wordMax) (positive : Bool) :
    numberText .value positive (Nat.toDigits 10 n) = .ok (wholeNumber positive n, []) := by
  have hdigits := fun c (hc : c ∈ Nat.toDigits 10 n) =>
    Nat.isDigit_of_mem_toDigits (by decide) (by decide) hc
  have hvalue := Nat.ofDigitChars_toDigits (n := n) (b := 10) (by decide) (by decide)
  by_cases hzero : n = 0
  · subst hzero
    rw [Nat.toDigits_zero, numberText]
    rfl
  · obtain ⟨c, cs, hcs, hc⟩ := toDigits_eq_cons (Nat.pos_of_ne_zero hzero)
    rw [hcs] at hdigits hvalue ⊢
    rw [Nat.ofDigitChars_cons, Nat.mul_zero, Nat.zero_add] at hvalue
    have htake := takeDigits_all (c.toNat - '0'.toNat) cs
      (fun d hd => hdigits d (List.mem_cons_of_mem c hd)) (by rw [hvalue]; exact hn)
    rw [numberText_digit hc (hdigits c List.mem_cons_self), htake, hvalue, afterDigits]
    rfl

/-- An integer of 64 bits is read back as itself. -/
theorem signedNumber_integerText {i : Int} (hi : i.natAbs ≤ twoPow 63) :
    signedNumber .value (integerText i) = .ok (.integer i, []) := by
  have hword : i.natAbs ≤ wordMax := Nat.le_trans hi (by decide)
  rw [integerText]
  split
  · next hneg =>
    rw [signedNumber, numberText_toDigits hword, wholeNumber, if_neg (by decide), if_neg (by omega)]
    congr 3
    omega
  · next hpos =>
    obtain ⟨c, cs, hcs⟩ := List.exists_cons_of_ne_nil (Nat.toDigits_ne_nil (n := i.natAbs) (b := 10))
    have hc : c ≠ '-' := by
      rintro rfl
      have hdigit := Nat.isDigit_of_mem_toDigits (by decide) (by decide)
        (hcs ▸ List.mem_cons_self : '-' ∈ Nat.toDigits 10 i.natAbs)
      exact absurd hdigit (by decide)
    have hread := numberText_toDigits hword true
    rw [hcs] at hread ⊢
    rw [signedNumber_plain hc, hread, wholeNumber, if_pos rfl]
    congr 3
    omega

end Json

end ScriptOutline
