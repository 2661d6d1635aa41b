import ScriptOutline.Proofs.Number.Exact
import ScriptOutline.Proofs.Outline.Walk

/-!
# Walks that find the same

Two walks are the same if they find the same records, up to the sign of zero, from every line on. Both
zeros are shown alike, so that literals of the same value have the same text, and walks that are put
together from the same walks are the same.
-/

namespace ScriptOutline

/-! ## Texts -/

theorem Double.display_of_sameValue {a b : Double} (h : a.sameValue b = true) :
    a.display = b.display := by
  cases a with
  | finite s m =>
    cases b with
    | finite t n =>
      simp only [sameValue, Bool.and_eq_true, beq_iff_eq, Bool.or_eq_true] at h
      obtain ⟨rfl, rfl | hzero⟩ := h
      · rfl
      · rw [display, display, toInt?_of_mantissa hzero, toInt?_of_mantissa hzero]
    | infinite t => cases h
    | nan => cases h
  | infinite s =>
    cases b with
    | infinite t => rw [eq_of_beq h]
    | finite t n => cases h
    | nan => cases h
  | nan => cases h

theorem Literal.shown_of_sameValue {a b : Literal} (h : a.sameValue b = true) :
    a.shown = b.shown := by
  cases a with
  | number d =>
    cases b with
    | number e => rw [shown, shown, Double.display_of_sameValue h]
    | _ => simp [sameValue] at h
  | _ =>
    cases b <;> simp_all [sameValue]

/-! ## Records -/

namespace Record

theorem sameValue_bare {r : Record} (h : r.value = none) : r.sameValue r = true := by
  simp [sameValue, h]

theorem sameValues_append {as bs cs ds : List Record} (h : sameValues as bs = true)
    (h' : sameValues cs ds = true) : sameValues (as ++ cs) (bs ++ ds) = true := by
  induction as generalizing bs with
  | nil =>
    cases bs with
    | nil => exact h'
    | cons b bs => cases h
  | cons a as ih =>
    cases bs with
    | nil => cases h
    | cons b bs =>
      simp only [sameValues, Bool.and_eq_true] at h
      simp only [List.cons_append, sameValues, Bool.and_eq_true]
      exact ⟨h.1, ih h.2⟩

theorem sameValues_singleton {a b : Record} (h : a.sameValue b = true) :
    sameValues [a] [b] = true := by
  simp [sameValues, h]

end Record

/-! ## Walks -/

namespace Walk

/-- Walks that find the same from every line on and end on the same line. -/
def Same (v w : Walk) : Prop :=
  ∀ line, Record.sameValues (v line).records (w line).records = true ∧ (v line).line = (w line).line

theorem same_idle : Same idle idle := fun _ => ⟨rfl, rfl⟩

theorem same_advance : Same advance advance := fun _ => ⟨rfl, rfl⟩

theorem same_emit {f g : Nat → List Record}
    (h : ∀ line, Record.sameValues (f line) (g line) = true) : Same (emit f) (emit g) :=
  fun line => ⟨h line, rfl⟩

theorem Same.andThen {a b c d : Walk} (h : Same a b) (h' : Same c d) :
    Same (a.andThen c) (b.andThen d) := by
  intro line
  obtain ⟨hrecords, hline⟩ := h line
  obtain ⟨hrecords', hline'⟩ := h' (a line).line
  rw [Walk.andThen, Walk.andThen, ← hline]
  exact ⟨Record.sameValues_append hrecords hrecords', hline'⟩

end Walk

end ScriptOutline
