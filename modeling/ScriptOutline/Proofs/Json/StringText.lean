import Mathlib.Tactic.Common
import ScriptOutline.Json.Reader
import ScriptOutline.Json.Writer

/-!
# Reading strings back

A string is read back as itself: each character is written so that one step of the reader gives it
again, be it as it is, by a letter after a backslash or by its code.
-/

namespace ScriptOutline

namespace Json

/-- The code of a control character is read back. -/
theorem hexEscape_control {n : Nat} (hn : n < 32) (rest : List Char) :
    hexEscape ('0' :: '0' :: hexDigit (n / 16) :: hexDigit (n % 16) :: rest) = .ok (n, rest) := by
  have hbytes : ∀ n < 32, ¬TextPosition.byteCount ['0', '0', hexDigit (n / 16), hexDigit (n % 16)] < 4 := by
    decide
  have hdigits : ∀ n < 32, ['0', '0', hexDigit (n / 16), hexDigit (n % 16)].all
      (fun c => (Double.digitValue? c).isSome) = true := by decide
  have hvalue : ∀ n < 32,
      Double.digitsValue 16 ['0', '0', hexDigit (n / 16), hexDigit (n % 16)] = n := by decide
  have htake : ('0' :: '0' :: hexDigit (n / 16) :: hexDigit (n % 16) :: rest).take 4 =
      ['0', '0', hexDigit (n / 16), hexDigit (n % 16)] := rfl
  rw [hexEscape, htake, if_neg (hbytes n hn)]
  simp only [hdigits n hn, hvalue n hn, List.length_cons, List.length_nil, and_self, if_true]
  rfl

theorem unicodeEscape_control {c : Char} (hc : c.toNat < 32) (rest : List Char) :
    unicodeEscape .value
      ('0' :: '0' :: hexDigit (c.toNat / 16) :: hexDigit (c.toNat % 16) :: rest) = .ok (c, rest) := by
  rw [unicodeEscape, hexEscape_control hc]
  have hlow : ¬(0xDC00 ≤ c.toNat ∧ c.toNat ≤ 0xDFFF) := by omega
  have hplain : c.toNat < 0xD800 ∨ 0xDBFF < c.toNat := by omega
  simp only [bind, Except.bind]
  rw [if_neg (by decide), if_neg hlow, if_pos hplain, Char.ofNat_toNat]
  rfl

/-- One step of the reader gives back one character. -/
theorem stringBody_escapeChar (fuel : Nat) (acc : List Char) (c : Char) (rest : List Char) :
    stringBody .value (fuel + 1) acc (escapeChar c ++ rest) =
      stringBody .value fuel (c :: acc) rest := by
  unfold escapeChar
  split
  case h_8 hquote hbackslash _ _ _ _ _ =>
    split
    · next hcontrol =>
      simp only [List.cons_append, List.nil_append]
      rw [stringBody]
      simp only [unicodeEscape_control hcontrol]
    · next hcontrol =>
      rw [List.singleton_append, stringBody]
      · simp only [if_neg hcontrol]
      · exact fun h => hquote h
      · exact fun h => hbackslash h
  all_goals rfl

/-- The characters of a string up to its closing quote are read back. -/
theorem stringBody_escaped (cs : List Char) (fuel : Nat) (acc rest : List Char)
    (hfuel : cs.length < fuel) :
    stringBody .value fuel acc (cs.flatMap escapeChar ++ '"' :: rest) =
      .ok (String.ofList (acc.reverse ++ cs), rest) := by
  induction cs generalizing fuel acc with
  | nil =>
    obtain ⟨fuel, rfl⟩ := Nat.exists_eq_succ_of_ne_zero (Nat.ne_of_gt hfuel)
    rw [List.append_nil]
    rfl
  | cons c cs ih =>
    obtain ⟨fuel, rfl⟩ := Nat.exists_eq_succ_of_ne_zero (Nat.ne_of_gt (Nat.zero_lt_of_lt hfuel))
    rw [List.flatMap_cons, List.append_assoc, stringBody_escapeChar,
      ih fuel (c :: acc) (Nat.lt_of_succ_lt_succ hfuel), List.reverse_cons, List.append_assoc]
    rfl

theorem length_le_escaped (cs : List Char) : cs.length ≤ (cs.flatMap escapeChar).length := by
  induction cs with
  | nil => exact Nat.le_refl 0
  | cons c cs ih =>
    have hpos : 0 < (escapeChar c).length := by
      unfold escapeChar
      split
      case h_8 => split <;> simp
      all_goals simp
    rw [List.flatMap_cons, List.length_append, List.length_cons]
    omega

/-- A string is read back after its opening quote. -/
theorem stringBody_quoted (s : String) (rest : List Char) :
    ∃ body, quoted s ++ rest = '"' :: body ∧
      stringBody .value (body.length + 1) [] body = .ok (s, rest) := by
  refine ⟨s.toList.flatMap escapeChar ++ '"' :: rest, by simp [quoted], ?_⟩
  have hlength := length_le_escaped s.toList
  rw [stringBody_escaped]
  · simp
  · simp only [List.length_append, List.length_cons]
    omega

end Json

end ScriptOutline
