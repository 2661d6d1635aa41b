import Mathlib.Data.List.Forall2
import Mathlib.Tactic.Common
import ScriptOutline.Proofs.Estree.Nesting

/-!
# What values are read as

A value stands for a node (`ReadsAs`) if every reader with enough levels reads it as that node. So
nothing that is built from such statements counts levels. A node stands for what its slots stand for
(`readsAs_of_slots`), and a slot for what the members of its name stand for.
-/

namespace ScriptOutline

namespace Estree

open Json (Members)

/-- Every reader with more levels than the value is nested reads it as the node. -/
def ReadsAs (v : Json) (n : Node) : Prop :=
  ∀ limit depth, v.depth < depth → node limit depth v = .ok n

/-- The slot has what it must have, and the values in it stand for the nodes. -/
structure Stands (members : Members) (slot : Slot) (nodes : List Node) : Prop where
  filled : slot.isFilled members = true
  parts : List.Forall₂ ReadsAs (slot.nodes members) nodes

variable {members : Members} {key kind : String} {v : Json} {n : Node}

/-- A node stands for what is put together from what its slots stand for. -/
theorem readsAs_of_slots {names : List Slot} {nodes : List (List Node)}
    (htype : Members.get? members "type" = some (.string kind)) (hslots : slots kind = names)
    (h : List.Forall₂ (Stands members) names nodes) (hn : assemble kind members nodes = n) :
    ReadsAs (.object members) n := by
  intro limit depth hdepth
  cases depth with
  | zero => exact absurd hdepth (Nat.not_lt_zero _)
  | succ depth =>
    have hread : readSlots (node limit depth) kind members names = .ok nodes := by
      refine mapM_eq_ok h fun slot _ ns hslot => ?_
      rw [Slot.read, if_pos hslot.filled, all_eq_mapM]
      refine mapM_eq_ok hslot.parts fun v hv m hm => hm limit depth ?_
      have hlt := depth_lt_of_mem_nodes hv
      omega
    rw [node_object htype, ofMembers_eq_assemble, hslots, hread, ← hn]
    rfl

/-- The text of a value that stands for a program is read as the program, unless the limit on the
nesting of trees is smaller than that on the nesting of JSON. -/
theorem ReadsAs.read {text : List Char} {limit : Nat} (h : ReadsAs v n)
    (htext : Json.parse text = .ok v) (hprogram : n.isProgram = true)
    (hlimit : Json.depthLimit ≤ limit) : Estree.read limit text = .ok n := by
  have hdepth := Json.parse_readsBelow text v htext
  have hnode : node limit (limit + 1) v = .ok n := h limit (limit + 1) (by omega)
  rw [Estree.read, readWith, htext]
  simp only [readValue, hnode]
  exact if_pos hprogram

/-! ## Slots -/

theorem ReadsAs.ne_null (h : ReadsAs v n) : v ≠ .null := by
  rintro rfl
  cases h 0 1 Nat.zero_lt_one

theorem stands_required (h : Members.get? members key = some v) (hn : ReadsAs v n) :
    Stands members ⟨key, .required⟩ [n] := by
  have hpresent := present?_eq_some_iff.2 ⟨h, hn.ne_null⟩
  constructor
  · simp [Slot.isFilled, hpresent]
  · simpa [Slot.nodes, hpresent] using hn

theorem stands_optional {o : Option Node} (h : Option.Rel ReadsAs (present? members key) o) :
    Stands members ⟨key, .optional⟩ o.toList := by
  refine ⟨rfl, ?_⟩
  rw [Slot.nodes]
  generalize present? members key = part at h
  cases h with
  | none => exact .nil
  | some h => exact .cons h .nil

theorem stands_sequence {vs : List Json} {nodes : List Node}
    (h : Members.get? members key = some (.array vs)) (hnodes : List.Forall₂ ReadsAs vs nodes) :
    Stands members ⟨key, .sequence⟩ nodes := by
  have hpresent := present?_eq_some_iff.2 ⟨h, Json.noConfusion⟩
  have hitems : oneOrMany (some (.array vs)) = vs := by
    have hboth : List.Forall₂ (fun v n => v ≠ .null ∧ ReadsAs v n) vs nodes :=
      hnodes.imp fun v n hn => ⟨hn.ne_null, hn⟩
    obtain ⟨hnull, -⟩ := (List.forall₂_and_left vs nodes).1 hboth
    rw [oneOrMany, List.filter_eq_self]
    intro v hv
    simp [isNull_eq_false_iff.2 (hnull v hv)]
  constructor
  · simp [Slot.isFilled, hpresent]
  · simpa [Slot.nodes, hpresent, hitems] using hnodes

theorem stands_text {s : String} (h : Members.get? members key = some (.string s)) :
    Stands members ⟨key, .text⟩ [] := by
  have hpresent := present?_eq_some_iff.2 ⟨h, Json.noConfusion⟩
  constructor
  · simp [Slot.isFilled, hpresent, Json.asString?]
  · simp [Slot.nodes]

theorem stringOr_eq {s default : String} (h : Members.get? members key = some (.string s)) :
    stringOr members key default = s := by
  have hpresent := present?_eq_some_iff.2 ⟨h, Json.noConfusion⟩
  simp [stringOr, hpresent, Json.asString?]

/-- A node of an unsupported kind without any member that could hold statements, and without a name,
is read as nothing but its kind. -/
theorem readsAs_unsupported (hkind : kind ∉ Node.supportedNames)
    (htype : Members.get? members "type" = some (.string kind))
    (hname : Members.get? members "name" = none)
    (hslots : ∀ name ∈ statementSlots, Members.get? members name = none) :
    ReadsAs (.object members) (.unsupported kind none []) := by
  have hstands : List.Forall₂ (Stands members) (slots kind) (statementSlots.map fun _ => []) := by
    rw [slots_unsupported hkind, List.forall₂_map_left_iff, List.forall₂_map_right_iff]
    refine List.forall₂_same.2 fun name hmem => ⟨rfl, ?_⟩
    simp [Slot.nodes, hslots name hmem, oneOrMany]
  refine readsAs_of_slots htype rfl hstands ?_
  rw [assemble_unsupported hkind, hname]
  rfl

end Estree

end ScriptOutline
