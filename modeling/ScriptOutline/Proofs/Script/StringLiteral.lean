import Mathlib.Tactic.Common
import ScriptOutline.Proofs.Number.DigitText
import ScriptOutline.Script.Convert

/-!
# Spellings of strings

A string literal is a row of pieces (`Piece`): characters as they are, escape sequences that denote
a character, two escape sequences that are the halves of one character, and line breaks after a
backslash. The string that it spells is that of the characters which its pieces denote.

Each escape sequence is decoded on its own. So every piece is decoded to what it denotes, except for
two halves, of which neither denotes a character: they are kept as the letters they are written
with.
-/

namespace ScriptOutline

namespace Script

namespace Spelling

/-- The letters that denote a character after a backslash. -/
def escapeLetters : List (Char × Char) :=
  [('b', '\x08'), ('t', '\t'), ('n', '\n'), ('v', '\x0b'), ('f', '\x0c'), ('r', '\r')]

/-- The characters that do not denote themselves after a backslash: letters with a meaning, the
first characters of codes, octal digits and line breaks. -/
def meaningful : List Char := "btnvfrxu01234567\n\r\u2028\u2029".toList

/-- The line breaks that may stand after a backslash. -/
def lineBreaks : List (List Char) := [['\n'], ['\r'], ['\r', '\n'], ['\u2028'], ['\u2029']]

/-- What follows the backslash of an escape sequence denotes a character, by no octal code. -/
inductive Denotes : Char → List Char → Prop where
  | letter {c letter : Char} : (letter, c) ∈ escapeLetters → Denotes c [letter]
  | itself {c : Char} : c ∉ meaningful → Denotes c [c]
  | null : Denotes '\x00' ['0']
  | byte {c : Char} {digits : List Char} :
    digits.length = 2 → DigitsDenote 16 digits c.toNat → Denotes c ('x' :: digits)
  | unit {c : Char} {digits : List Char} :
    digits.length = 4 → DigitsDenote 16 digits c.toNat → Denotes c ('u' :: digits)
  | point {c : Char} {digits : List Char} :
    digits ≠ [] → DigitsDenote 16 digits c.toNat → Denotes c ('u' :: '{' :: (digits ++ ['}']))

/-- Two codes of four digits are the halves of a character: its high and its low surrogate. -/
def AreHalves (c : Char) (high low : List Char) : Prop :=
  high.length = 4 ∧ low.length = 4 ∧
    ∃ h l, DigitsDenote 16 high h ∧ DigitsDenote 16 low l ∧
      0xD800 ≤ h ∧ h < 0xDC00 ∧ 0xDC00 ≤ l ∧ l < 0xE000 ∧
      c.toNat = 0x10000 + (h - 0xD800) * 0x400 + (l - 0xDC00)

/-- A piece of a string literal between two quotes. -/
inductive Piece (quote : Char) where
  /-- Characters as they are. -/
  | raw (text : List Char) (allowed : ∀ c ∈ text, c ∉ [quote, '\\', '\n', '\r'])
  /-- A character by an escape sequence, with what follows the backslash. -/
  | escape (c : Char) (body : List Char) (denotes : Denotes c body)
  /-- A character by its two halves, with the digits of their codes. -/
  | halves (c : Char) (high low : List Char) (areHalves : AreHalves c high low)
  /-- A line break that is no part of the string. -/
  | lineBreak (body : List Char) (allowed : body ∈ lineBreaks)

/-- The leaf of an escape sequence. -/
def escapeLeaf (body : List Char) : Tree := .leaf .escapeSequence (String.ofList ('\\' :: body))

namespace Piece

variable {quote : Char}

/-- The characters that a piece denotes. -/
def value : Piece quote → List Char
  | .raw text _ => text
  | .escape c _ _ => [c]
  | .halves c _ _ _ => [c]
  | .lineBreak _ _ => []

/-- The leaves that a piece is read as. -/
def leaves : Piece quote → List Tree
  | .raw text _ => [.leaf .stringFragment (String.ofList text)]
  | .escape _ body _ => [escapeLeaf body]
  | .halves _ high low _ => [escapeLeaf ('u' :: high), escapeLeaf ('u' :: low)]
  | .lineBreak body _ => [escapeLeaf body]

/-- Whether a piece is a character by its two halves. -/
def isHalves : Piece quote → Bool
  | .halves .. => true
  | _ => false

/-- What a piece is decoded to. -/
def decoded : Piece quote → List Char
  | .halves _ high low _ => 'u' :: high ++ 'u' :: low
  | piece => piece.value

end Piece

/-- The tree of a string literal. -/
def literal (quote : Char) (pieces : List (Piece quote)) : Tree :=
  .node .string <| (none, .token (String.singleton quote)) ::
    ((pieces.flatMap Piece.leaves).map (fun leaf => (none, leaf)) ++
      [(none, .token (String.singleton quote))])

/-! ## Codes of characters -/

theorem scalar?_toNat (c : Char) : scalar? c.toNat = some c := by
  have hvalid : c.toNat < 0xD800 ∨ (0xDFFF < c.toNat ∧ c.toNat ≤ 0x10FFFF) := by
    rcases c.valid with h | h
    · exact .inl h
    · exact .inr ⟨h.1, Nat.le_of_lt_succ h.2⟩
  rw [scalar?, if_pos hvalid, Char.ofNat_toNat]

theorem scalar?_half {n : Nat} (hlow : 0xD800 ≤ n) (hhigh : n < 0xE000) : scalar? n = none := by
  rw [scalar?, if_neg (by omega)]

/-- Hexadecimal digits give the character whose code they denote. -/
theorem hexScalar?_of_denote {digits : List Char} {n : Nat} (hne : digits ≠ [])
    (h : DigitsDenote 16 digits n) : hexScalar? digits = scalar? n := by
  have hvalue := Double.digitsValue_of_denote (Nat.le_refl 16) h
  obtain ⟨values, hdigits, -⟩ := h
  have hall : digits.all (fun c => (Double.digitValue? c).isSome) = true := by
    rw [List.all_eq_true]
    intro c hc
    obtain ⟨v, hdigit⟩ := IsDigit.exists_of_mem hdigits hc
    rw [hdigit.digitValue?_eq (Nat.le_refl 16), Option.isSome_some]
  rw [hexScalar?, hall, hvalue, List.isEmpty_eq_false_iff.2 hne]
  rfl

theorem dropWhile_of_notMem {c : Char} {cs : List Char} (h : c ∉ cs) :
    cs.dropWhile (· == c) = cs := by
  cases cs with
  | nil => rfl
  | cons d cs =>
    have hne : ¬(d == c) = true := fun heq => h (beq_iff_eq.1 heq ▸ List.mem_cons_self)
    exact List.dropWhile_cons_of_neg hne

/-- Braces around digits are taken away. -/
theorem withoutBraces_braced {digits : List Char} (hopen : '{' ∉ digits) (hclose : '}' ∉ digits) :
    withoutBraces ('{' :: (digits ++ ['}'])) = digits := by
  have hfirst : '{' ∉ digits ++ ['}'] := by simp [hopen]
  have hlast : '}' ∉ digits.reverse := by simp [hclose]
  rw [withoutBraces, List.dropWhile_cons_of_pos (by decide), dropWhile_of_notMem hfirst,
    List.reverse_append, List.reverse_singleton, List.singleton_append,
    List.dropWhile_cons_of_pos (by decide), dropWhile_of_notMem hlast, List.reverse_reverse]

/-- Digits without braces are left as they are. -/
theorem withoutBraces_bare {digits : List Char} (hopen : '{' ∉ digits) (hclose : '}' ∉ digits) :
    withoutBraces digits = digits := by
  have hlast : '}' ∉ digits.reverse := by simp [hclose]
  rw [withoutBraces, dropWhile_of_notMem hopen, dropWhile_of_notMem hlast, List.reverse_reverse]

theorem notMem_of_denote {digits : List Char} {n : Nat} (h : DigitsDenote 16 digits n) :
    '{' ∉ digits ∧ '}' ∉ digits := by
  obtain ⟨values, hdigits, -⟩ := h
  exact ⟨IsDigit.notMem_digits (Nat.le_refl 16) hdigits (by decide),
    IsDigit.notMem_digits (Nat.le_refl 16) hdigits (by decide)⟩

/-! ## Escape sequences -/

theorem unescaped_itself {c : Char} (h : c ∉ meaningful) : unescaped [c] = [c] := by
  have hother (d : Char) (hd : d ∈ meaningful) (tail : List Char) : [c] = d :: tail → False :=
    fun heq => h ((List.cons.inj heq).1 ▸ hd)
  exact unescaped.eq_15 [c] nofun (hother 'n' (by decide)) (hother 't' (by decide))
    (hother 'r' (by decide)) (hother 'b' (by decide)) (hother 'f' (by decide))
    (hother 'v' (by decide)) (hother '0' (by decide) []) (hother 'x' (by decide))
    (hother 'u' (by decide)) (hother '\n' (by decide)) (hother '\r' (by decide))
    (hother '\u2028' (by decide)) (hother '\u2029' (by decide))

/-- An escape sequence is decoded to the character that it denotes. -/
theorem unescaped_of_denotes {c : Char} {body : List Char} (h : Denotes c body) :
    unescaped body = [c] := by
  cases h with
  | letter hletter =>
    have hall : ∀ p ∈ escapeLetters, unescaped [p.1] = [p.2] := by decide
    exact hall _ hletter
  | itself hother => exact unescaped_itself hother
  | null => rfl
  | byte hlength hdigits =>
    rename_i digits
    have hne : digits ≠ [] := List.ne_nil_of_length_eq_add_one hlength
    show ((hexScalar? digits).map fun c => [c]).getD ('x' :: digits) = [c]
    rw [hexScalar?_of_denote hne hdigits, scalar?_toNat]
    rfl
  | unit hlength hdigits =>
    rename_i digits
    have hne : digits ≠ [] := List.ne_nil_of_length_eq_add_one hlength
    obtain ⟨hopen, hclose⟩ := notMem_of_denote hdigits
    show ((hexScalar? (withoutBraces digits)).map fun c => [c]).getD ('u' :: digits) = [c]
    rw [withoutBraces_bare hopen hclose, hexScalar?_of_denote hne hdigits, scalar?_toNat]
    rfl
  | point hne hdigits =>
    rename_i digits
    obtain ⟨hopen, hclose⟩ := notMem_of_denote hdigits
    show ((hexScalar? (withoutBraces ('{' :: (digits ++ ['}'])))).map fun c => [c]).getD _ = [c]
    rw [withoutBraces_braced hopen hclose, hexScalar?_of_denote hne hdigits, scalar?_toNat]
    rfl

/-- Half a character is kept as the letters it is written with. -/
theorem unescaped_half {digits : List Char} {n : Nat} (hlength : digits.length = 4)
    (hdigits : DigitsDenote 16 digits n) (hlow : 0xD800 ≤ n) (hhigh : n < 0xE000) :
    unescaped ('u' :: digits) = 'u' :: digits := by
  have hne : digits ≠ [] := List.ne_nil_of_length_eq_add_one hlength
  obtain ⟨hopen, hclose⟩ := notMem_of_denote hdigits
  show ((hexScalar? (withoutBraces digits)).map fun c => [c]).getD ('u' :: digits) = 'u' :: digits
  rw [withoutBraces_bare hopen hclose, hexScalar?_of_denote hne hdigits, scalar?_half hlow hhigh]
  rfl

/-- Neither half of a character is decoded. -/
theorem AreHalves.unescaped {c : Char} {high low : List Char} (h : AreHalves c high low) :
    unescaped ('u' :: high) = 'u' :: high ∧ unescaped ('u' :: low) = 'u' :: low := by
  obtain ⟨hhigh, hlow, first, second, hfirst, hsecond, hfrom, hto, lfrom, lto, -⟩ := h
  exact ⟨unescaped_half hhigh hfirst hfrom (by omega), unescaped_half hlow hsecond (by omega) lto⟩

theorem unescaped_lineBreak {body : List Char} (h : body ∈ lineBreaks) : unescaped body = [] := by
  have hall : ∀ b ∈ lineBreaks, unescaped b = [] := by decide
  exact hall _ h

/-! ## String literals -/

variable {quote : Char}

/-- The text of one part of a string literal. -/
def partText : Tree → List Char
  | .leaf .stringFragment s => s.toList
  | .leaf .escapeSequence s => unescaped (s.toList.drop 1)
  | _ => []

theorem stringValue_eq (t : Tree) :
    Convert.stringValue t = String.ofList (t.visibleChildren.flatMap partText) := rfl

theorem partText_escapeLeaf (body : List Char) : partText (escapeLeaf body) = unescaped body := by
  rw [escapeLeaf, partText, String.toList_ofList, List.drop_succ_cons, List.drop_zero]

/-- The leaves of a piece are read as what it is decoded to. -/
theorem flatMap_leaves (piece : Piece quote) : piece.leaves.flatMap partText = piece.decoded := by
  cases piece with
  | raw text allowed =>
    rw [Piece.leaves, List.flatMap_singleton, partText, String.toList_ofList]
    rfl
  | escape c body denotes =>
    rw [Piece.leaves, List.flatMap_singleton, partText_escapeLeaf, unescaped_of_denotes denotes]
    rfl
  | halves c high low areHalves =>
    obtain ⟨hfirst, hsecond⟩ := areHalves.unescaped
    rw [Piece.leaves, List.flatMap_cons, List.flatMap_singleton, partText_escapeLeaf,
      partText_escapeLeaf, hfirst, hsecond]
    rfl
  | lineBreak body allowed =>
    rw [Piece.leaves, List.flatMap_singleton, partText_escapeLeaf, unescaped_lineBreak allowed]
    rfl

theorem Piece.isVisible_of_mem_leaves (piece : Piece quote) {leaf : Tree}
    (h : leaf ∈ piece.leaves) : leaf.isVisible = true := by
  cases piece with
  | raw text allowed =>
    rw [List.mem_singleton.1 h]
    rfl
  | escape c body denotes =>
    rw [List.mem_singleton.1 h]
    rfl
  | halves c high low areHalves =>
    rcases List.mem_cons.1 h with rfl | hlow
    · rfl
    · rw [List.mem_singleton.1 hlow]
      rfl
  | lineBreak body allowed =>
    rw [List.mem_singleton.1 h]
    rfl

/-- The quotes are not visible, and the leaves of the pieces are. -/
theorem visibleChildren_literal (pieces : List (Piece quote)) :
    (literal quote pieces).visibleChildren = pieces.flatMap Piece.leaves := by
  have hleaves : ∀ leaf ∈ pieces.flatMap Piece.leaves, leaf.isVisible = true := by
    intro leaf hleaf
    obtain ⟨piece, -, hmem⟩ := List.mem_flatMap.1 hleaf
    exact piece.isVisible_of_mem_leaves hmem
  have hquote : ¬(Tree.token (String.singleton quote)).isVisible = true := Bool.false_ne_true
  have hparts : (literal quote pieces).children.map (·.2) =
      .token (String.singleton quote) :: (pieces.flatMap Piece.leaves ++
        [.token (String.singleton quote)]) := by
    simp [literal, Tree.children, Function.comp_def]
  rw [Tree.visibleChildren, hparts, List.filter_cons_of_neg hquote, List.filter_append,
    List.filter_cons_of_neg hquote, List.filter_nil, List.append_nil, List.filter_eq_self]
  exact hleaves

/-- What is not written by halves is decoded to what it denotes. -/
theorem Piece.decoded_eq_value {piece : Piece quote} (h : piece.isHalves = false) :
    piece.decoded = piece.value := by
  cases piece with
  | halves c high low areHalves => cases h
  | _ => rfl

/-- Halves take ten characters instead of one. -/
theorem Piece.length_decoded (piece : Piece quote) :
    piece.decoded.length = piece.value.length + if piece.isHalves = true then 9 else 0 := by
  cases piece with
  | halves c high low areHalves =>
    obtain ⟨hhigh, hlow, -⟩ := areHalves
    simp [decoded, value, isHalves, hhigh, hlow]
  | _ => rfl

theorem length_flatMap_decoded (pieces : List (Piece quote)) :
    (pieces.flatMap Piece.decoded).length =
      (pieces.flatMap Piece.value).length + 9 * pieces.countP Piece.isHalves := by
  induction pieces with
  | nil => rfl
  | cons piece pieces ih =>
    rw [List.flatMap_cons, List.flatMap_cons, List.length_append, List.length_append, ih,
      List.countP_cons, piece.length_decoded]
    split <;> omega

/-- A string literal has the string that it spells as its value, unless a character is spelled by
its two halves: these are kept as the letters they are written with. -/
theorem stringValue_spelling (quote : Char) (pieces : List (Piece quote)) :
    Convert.stringValue (literal quote pieces) = String.ofList (pieces.flatMap Piece.decoded) ∧
      (Convert.stringValue (literal quote pieces) = String.ofList (pieces.flatMap Piece.value) ↔
        ∀ piece ∈ pieces, piece.isHalves = false) := by
  have hdecoded : Convert.stringValue (literal quote pieces) =
      String.ofList (pieces.flatMap Piece.decoded) := by
    rw [stringValue_eq, visibleChildren_literal, List.flatMap_assoc]
    simp only [flatMap_leaves]
  refine ⟨hdecoded, ?_⟩
  rw [hdecoded]
  constructor
  · intro hsame
    have hlength := length_flatMap_decoded pieces
    rw [String.ofList_injective hsame] at hlength
    have hnone : pieces.countP Piece.isHalves = 0 := by omega
    intro piece hpiece
    exact Bool.eq_false_iff.2 (List.countP_eq_zero.1 hnone piece hpiece)
  · intro hnone
    have hpieces : pieces.map Piece.decoded = pieces.map Piece.value :=
      List.map_congr_left fun piece hpiece => Piece.decoded_eq_value (hnone piece hpiece)
    rw [List.flatMap_def, hpieces, ← List.flatMap_def]

/-- A character as it is, a code in two digits, a line break, a code in braces and a quote. -/
def mixed : List (Piece '"') :=
  [.raw ['é'] (List.forall_mem_singleton.2 (by decide)),
    .escape 'A' ['x', '4', '1'] (.byte rfl ⟨[4, 1], by decide, by decide⟩),
    .lineBreak ['\r', '\n'] (by decide),
    .escape '😀' ('u' :: '{' :: ("0001F600".toList ++ ['}']))
      (.point (by decide) ⟨[0, 0, 0, 1, 15, 6, 0, 0], by decide, by decide⟩),
    .escape '"' ['"'] (.itself (by decide))]

/-- A string that is spelled in several ways at once is the value of the literal. -/
theorem stringValue_spelling_mixed :
    (∀ piece ∈ mixed, piece.isHalves = false) ∧
      Convert.stringValue (literal '"' mixed) = String.ofList ['é', 'A', '😀', '"'] :=
  have hwhole : ∀ piece ∈ mixed, piece.isHalves = false := by decide
  ⟨hwhole, (stringValue_spelling '"' mixed).2.2 hwhole⟩

/-- The character U+1F600 by its two halves. -/
def grinning : Piece '"' :=
  have areHalves : AreHalves '😀' "D83D".toList "DE00".toList :=
    ⟨by decide, by decide, 0xD83D, 0xDE00, ⟨[13, 8, 3, 13], by decide, by decide⟩,
      ⟨[13, 14, 0, 0], by decide, by decide⟩, by decide⟩
  .halves '😀' "D83D".toList "DE00".toList areHalves

/-- A character that is spelled by its two halves is not the value of the literal. -/
theorem halves_are_kept :
    [grinning].flatMap Piece.value = ['😀'] ∧
      Convert.stringValue (literal '"' [grinning]) = "uD83DuDE00" ∧
      Convert.stringValue (literal '"' [grinning]) ≠
        String.ofList ([grinning].flatMap Piece.value) := by
  refine ⟨rfl, by decide, by decide⟩

end Spelling

end Script

end ScriptOutline
