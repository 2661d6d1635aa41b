import Mathlib.Tactic.Common
import ScriptOutline.Proofs.Estree.Grammar
import ScriptOutline.Proofs.Json.Nesting

/-!
# The limit on the nesting of ESTree

A smaller limit changes an answer only by saying that the limit was passed (`readWith_agrees`). Every
part of a node lies deeper in the JSON value than the node itself, and the text of a value is only
read if the value is nested less deep than `Json.depthLimit`. So limits that are not smaller than
that one are all the same (`readWith_eq`). This bound on what it accepts is all that is used of the
reader of JSON.
-/

namespace ScriptOutline

namespace Estree

open Json (Members)

variable {members : Members} {slot : Slot} {v w : Json}

/-! ## Positions and depth -/

/-- What is read from a slot is the member itself or an element of it. -/
theorem exists_of_mem_nodes (h : w ∈ slot.nodes members) :
    ∃ v, Members.get? members slot.name = some v ∧ (w = v ∨ IsElement v w) := by
  obtain ⟨name, use⟩ := slot
  cases use with
  | required | optional =>
    have hpresent : present? members name = some w := by simpa [Slot.nodes] using h
    exact ⟨w, (present?_eq_some_iff.1 hpresent).1, .inl rfl⟩
  | sequence =>
    cases hpresent : present? members name with
    | none => simp [Slot.nodes, hpresent, oneOrMany] at h
    | some v =>
      have helement : IsElement v w := by
        simpa [Slot.nodes, hpresent, mem_oneOrMany_iff] using h
      exact ⟨v, (present?_eq_some_iff.1 hpresent).1, .inr helement⟩
  | text => cases h
  | statements =>
    obtain ⟨v, hv, helement, -⟩ := mem_nodes_statements.1 h
    exact ⟨v, hv, .inr helement⟩

theorem IsElement.depth_le (h : IsElement v w) : w.depth ≤ v.depth := by
  cases h with
  | item hw hnull =>
    have hitem := Json.depth_le_of_mem hw
    rw [Json.depth]
    omega
  | lone hnull harray => exact Nat.le_refl _

/-- A part of a node is nested less deep than the node. -/
theorem depth_lt_of_mem_nodes (h : w ∈ slot.nodes members) :
    w.depth < (Json.object members).depth := by
  obtain ⟨v, hv, hw⟩ := exists_of_mem_nodes h
  have hmember : v.depth ≤ Json.depthMembers members := Json.depth_le_of_get? hv
  have hpart : w.depth ≤ v.depth := by
    rcases hw with rfl | helement
    · exact Nat.le_refl _
    · exact helement.depth_le
  rw [Json.depth]
  omega

/-- The reader comes no deeper than the value is nested. -/
theorem ReadAt.le_depth {k : Nat} (h : ReadAt v k w) : k ≤ v.depth := by
  induction h with
  | here v => exact Nat.zero_le _
  | inside htype hslot hpart h ih =>
    have hlt := depth_lt_of_mem_nodes hpart
    omega

/-! ## Two limits -/

variable {limit limit' depth depth' : Nat}

/-- By induction on the levels left. With none left the first reader gives up; else both go on with
one level less. -/
theorem node_agrees (h : depth ≤ depth') :
    AgreesUnless (.nestingTooDeep limit) (node limit depth v) (node limit' depth' v) := by
  induction depth generalizing depth' v with
  | zero => exact .of_error _
  | succ depth ih =>
    obtain ⟨depth', rfl⟩ : ∃ k, depth' = k + 1 := ⟨depth' - 1, by omega⟩
    cases v with
    | object members =>
      rw [node, node]
      split
      · exact agrees_ofMembers fun slot hslot part hpart => ih (Nat.le_of_succ_le_succ h)
      · exact .refl _
    | null | boolean | number | string | array => exact .refl _

/-- A reader with more levels than the value is nested does not run out of them. -/
theorem node_ne_nestingTooDeep {n : Nat} (h : v.depth < depth) :
    node limit depth v ≠ .error (.nestingTooDeep n) := by
  intro hnode
  rcases node_error hnode with ⟨-, k, w, hw, hk⟩ | ⟨hblame, -⟩
  · have hle := hw.le_depth
    omega
  · rcases hblame with ⟨kind, slot, hblame⟩ | ⟨found, hblame⟩ <;> cases hblame

theorem node_eq (h : v.depth < depth) (h' : v.depth < depth') :
    node limit depth v = node limit' depth' v := by
  rcases Nat.le_total depth depth' with hle | hle
  · exact (node_agrees hle).resolve_left (node_ne_nestingTooDeep h)
  · exact ((node_agrees hle).resolve_left (node_ne_nestingTooDeep h')).symm

variable {d d' : Nat}

theorem readValue_agrees (h : d ≤ d') :
    AgreesUnless (.nestingTooDeep d) (readValue d v) (readValue d' v) :=
  .bind (node_agrees (Nat.succ_le_succ h)) fun _ => .refl _

theorem readValue_eq (h : v.depth ≤ d) (h' : v.depth ≤ d') : readValue d v = readValue d' v := by
  rw [readValue, readValue, node_eq (Nat.lt_succ_of_le h) (Nat.lt_succ_of_le h')]

section Reader

variable {json : List Char → Except JsonFailure Json} (hjson : Json.ReadsBelow Json.depthLimit json)

include hjson

/-- No text is nested so deep that limits beyond the one of the reader of JSON could differ. -/
theorem readWith_eq (h : Json.depthLimit ≤ d) (h' : Json.depthLimit ≤ d') (source : List Char) :
    readWith json d source = readWith json d' source := by
  unfold readWith
  split
  · next v hparse =>
    have hdepth := hjson source v hparse
    exact readValue_eq (by omega) (by omega)
  · rw [Nat.min_eq_right h, Nat.min_eq_right h']

theorem readWith_agrees (h : d ≤ d') (source : List Char) :
    AgreesUnless (.nestingTooDeep (min d Json.depthLimit)) (readWith json d source)
      (readWith json d' source) := by
  by_cases hlimit : Json.depthLimit ≤ d
  · exact .inr (readWith_eq hjson hlimit (Nat.le_trans hlimit h) source)
  · rw [Nat.min_eq_left (Nat.le_of_not_le hlimit)]
    unfold readWith
    split
    · exact readValue_agrees h
    · rw [Nat.min_eq_left (Nat.le_of_not_le hlimit)]
      split
      · exact .of_error _
      · exact .refl _

end Reader

end Estree

end ScriptOutline
