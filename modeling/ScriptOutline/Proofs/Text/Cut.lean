import Mathlib.Tactic.Common
import ScriptOutline.Text.Cut

/-!
# Parts of a text

A mark divides the parts before it from those behind it.
-/

namespace ScriptOutline

variable {mark : Char}

theorem cutAt_of_notMem {text : List Char} (h : mark ∉ text) : cutAt mark text = [text] := by
  induction text with
  | nil => rfl
  | cons c text ih =>
    rw [List.mem_cons, not_or] at h
    rw [cutAt, if_neg (Ne.symm h.1), ih h.2]

theorem cutAt_ne_nil (text : List Char) : cutAt mark text ≠ [] := by
  cases text with
  | nil => exact List.cons_ne_nil _ _
  | cons c text =>
    rw [cutAt]
    split
    · exact List.cons_ne_nil _ _
    · split <;> exact List.cons_ne_nil _ _

theorem cutAt_append_cons (text rest : List Char) :
    cutAt mark (text ++ mark :: rest) = cutAt mark text ++ cutAt mark rest := by
  induction text with
  | nil => simp [cutAt]
  | cons c text ih =>
    rw [List.cons_append, cutAt, cutAt, ih]
    split
    · rfl
    · cases hcut : cutAt mark text with
      | nil => exact absurd hcut (cutAt_ne_nil text)
      | cons part parts => rfl

end ScriptOutline
