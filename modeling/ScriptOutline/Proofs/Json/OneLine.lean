import ScriptOutline.Json.Writer

/-!
# JSON text on one line

Compact text holds no character below a space: strings escape them, and numbers are made of digits,
signs, points, the letter `e` and, if they are not finite, the letters of `null`.
-/

namespace ScriptOutline

/-- No character of the text is below a space. -/
def OneLine (cs : List Char) : Prop := ∀ c ∈ cs, 32 ≤ c.toNat

@[simp] theorem oneLine_nil : OneLine [] := nofun

@[simp] theorem oneLine_cons {c : Char} {cs : List Char} :
    OneLine (c :: cs) ↔ 32 ≤ c.toNat ∧ OneLine cs :=
  List.forall_mem_cons

@[simp] theorem oneLine_append {a b : List Char} :
    OneLine (a ++ b) ↔ OneLine a ∧ OneLine b :=
  List.forall_mem_append

theorem OneLine.subset {a b : List Char} (hb : OneLine b) (h : a ⊆ b) : OneLine a :=
  fun c hc => hb c (h hc)

theorem oneLine_replicate_zero (n : Nat) : OneLine (List.replicate n '0') := by
  intro c hc
  rw [List.eq_of_mem_replicate hc]
  decide

theorem oneLine_toDigits (n : Nat) : OneLine (Nat.toDigits 10 n) := by
  intro c hc
  have hdigit := Nat.isDigit_of_mem_toDigits (by decide) (by decide) hc
  simp only [Char.isDigit, Bool.and_eq_true, decide_eq_true_eq, ge_iff_le, UInt32.le_iff_toNat_le]
    at hdigit
  exact Nat.le_trans (by decide) hdigit.1

theorem oneLine_integerText (i : Int) : OneLine (integerText i) := by
  unfold integerText
  split
  · exact oneLine_cons.2 ⟨by decide, oneLine_toDigits _⟩
  · exact oneLine_toDigits _

namespace Scientific

theorem oneLine_significant (c : Nat) : OneLine (significant c) := by
  refine (oneLine_toDigits c).subset fun d hd => ?_
  rw [significant, List.mem_reverse] at hd
  exact List.mem_reverse.1 ((List.dropWhile_sublist _).subset hd)

theorem oneLine_shortest (tie : Tie) (m : Magnitude) : OneLine (shortest tie m).digits := by
  unfold shortest
  exact oneLine_significant _

theorem oneLine_withExponent {s : Scientific} (h : OneLine s.digits) : OneLine s.withExponent := by
  have htake := h.subset (List.take_subset 1 s.digits)
  have hdrop := h.subset (List.drop_subset 1 s.digits)
  have hexponent : OneLine (exponentText s.exponent) := by
    refine oneLine_cons.2 ⟨?_, oneLine_toDigits _⟩
    split <;> decide
  rw [withExponent]
  simp only [oneLine_append, oneLine_cons]
  refine ⟨⟨htake, ?_⟩, by decide, hexponent⟩
  split
  · exact oneLine_nil
  · exact oneLine_cons.2 ⟨by decide, hdrop⟩

theorem oneLine_json {s : Scientific} (h : OneLine s.digits) : OneLine s.json := by
  have hzeros := oneLine_replicate_zero
  unfold json
  dsimp only
  split
  · exact oneLine_withExponent h
  split
  · simp [h, hzeros]
  split
  · simp [h, hzeros]
  · simp [h.subset (List.take_subset _ s.digits), h.subset (List.drop_subset _ s.digits)]

end Scientific

theorem oneLine_signed (negative : Bool) {text : List Char} (h : OneLine text) :
    OneLine (Double.signed negative text) := by
  cases negative with
  | false => exact h
  | true => exact oneLine_cons.2 ⟨by decide, h⟩

theorem JsonNumber.oneLine_text (n : JsonNumber) : OneLine n.text := by
  cases n with
  | integer i => exact oneLine_integerText i
  | float d =>
    rw [text]
    cases d with
    | finite negative size =>
      rw [Double.floatJson]
      refine oneLine_signed negative ?_
      split
      · simp
      · exact Scientific.oneLine_json (Scientific.oneLine_shortest .even size)
    | infinite negative => simp [Double.floatJson]
    | nan => simp [Double.floatJson]

namespace Json

theorem oneLine_escapeChar (c : Char) : OneLine (escapeChar c) := by
  have hhex : ∀ n < 16, 32 ≤ (hexDigit n).toNat := by decide
  unfold escapeChar
  split
  case h_8 =>
    split
    · simp [hhex (c.toNat / 16) (by omega), hhex (c.toNat % 16) (by omega)]
    · next h => simpa using h
  all_goals simp

theorem oneLine_quoted (s : String) : OneLine (quoted s) := by
  have hbody : OneLine (s.toList.flatMap escapeChar) := by
    intro c hc
    obtain ⟨d, -, hcd⟩ := List.mem_flatMap.1 hc
    exact oneLine_escapeChar d c hcd
  simp [quoted, hbody]

@[simp] theorem Layout.tight_gap (level : Nat) : Layout.tight.gap level = [] := rfl

@[simp] theorem Layout.tight_space : Layout.tight.space = [] := rfl

mutual

theorem oneLine_write (level : Nat) : ∀ v : Json, OneLine (v.write .tight level)
  | .null => by simp [write]
  | .boolean true => by simp [write]
  | .boolean false => by simp [write]
  | .number n => by rw [write]; exact n.oneLine_text
  | .string s => by rw [write]; exact oneLine_quoted s
  | .array [] => by simp [write]
  | .array (v :: rest) => by
    simp [write, oneLine_write (level + 1) v, oneLine_writeItems level rest]
  | .object [] => by simp [write]
  | .object ((k, v) :: rest) => by
    simp [write, oneLine_quoted k, oneLine_write (level + 1) v,
      oneLine_writeMembers level rest]

theorem oneLine_writeItems (level : Nat) : ∀ items, OneLine (writeItems .tight level items)
  | [] => by simp [writeItems]
  | v :: rest => by
    simp [writeItems, oneLine_write (level + 1) v, oneLine_writeItems level rest]

theorem oneLine_writeMembers (level : Nat) : ∀ members, OneLine (writeMembers .tight level members)
  | [] => by simp [writeMembers]
  | (k, v) :: rest => by
    simp [writeMembers, oneLine_quoted k, oneLine_write (level + 1) v,
      oneLine_writeMembers level rest]

end

mutual

/-- Without gaps it makes no difference how deep a value stands. -/
theorem write_tight (level : Nat) : ∀ v : Json, v.write .tight level = v.compact
  | .null => rfl
  | .boolean true => rfl
  | .boolean false => rfl
  | .number _ => rfl
  | .string _ => rfl
  | .array [] => rfl
  | .array (v :: rest) => by
    simp [compact, write, write_tight (level + 1) v, write_tight 1 v,
      writeItems_tight level rest]
  | .object [] => rfl
  | .object ((k, v) :: rest) => by
    simp [compact, write, write_tight (level + 1) v, write_tight 1 v,
      writeMembers_tight level rest]

theorem writeItems_tight (level : Nat) :
    ∀ items, writeItems .tight level items = writeItems .tight 0 items
  | [] => rfl
  | v :: rest => by
    simp [writeItems, write_tight (level + 1) v, write_tight 1 v, writeItems_tight level rest]

theorem writeMembers_tight (level : Nat) :
    ∀ members, writeMembers .tight level members = writeMembers .tight 0 members
  | [] => rfl
  | (k, v) :: rest => by
    simp [writeMembers, write_tight (level + 1) v, write_tight 1 v, writeMembers_tight level rest]

end

end Json

end ScriptOutline
