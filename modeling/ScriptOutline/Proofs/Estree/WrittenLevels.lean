import Mathlib.Data.List.Forall2
import Mathlib.Tactic.Common
import ScriptOutline.Proofs.Estree.Grammar
import ScriptOutline.Proofs.Estree.RoundTrip

/-!
# Levels of written trees

A tree that keeps its data, numbers apart, is read from its written form whenever there are enough
levels, and else refused for its nesting and for nothing else. How many levels are enough is how deep
its nodes lie, since what the reader comes to in the slots of a written node are its parts again
(`written_slots`).

Infinite numbers make no difference here. They are written as `null`, which is no longer the same
literal, but one that can be read.
-/

namespace ScriptOutline

namespace Estree

open Json (Members)

/-- The members that are written for a node. -/
def membersOf (n : Node) : Members := ("type", .string n.typeName) :: n.estreeMembers

/-- The slot has what it must have, and in it the written forms of the nodes. -/
structure Writes (members : Members) (slot : Slot) (nodes : List Node) : Prop where
  filled : slot.isFilled members = true
  nodes_eq : slot.nodes members = nodes.map Node.toEstree

variable {members : Members} {key : String}

/-! ## Slots -/

theorem present?_toEstree {n : Node} (h : Members.get? members key = some n.toEstree) :
    present? members key = some n.toEstree :=
  present?_of_get h rfl

theorem writes_required {n : Node} (h : Members.get? members key = some n.toEstree) :
    Writes members ⟨key, .required⟩ [n] := by
  constructor
  · simp [Slot.isFilled, present?_toEstree h]
  · simp [Slot.nodes, present?_toEstree h]

theorem writes_optional {o : Option Node}
    (h : Members.get? members key = some (Node.estreeOption o)) :
    Writes members ⟨key, .optional⟩ o.toList := by
  refine ⟨rfl, ?_⟩
  cases o with
  | none => simp [Slot.nodes, present?_of_null h]
  | some n => simp [Slot.nodes, present?_toEstree h]

theorem writes_sequence {nodes : List Node}
    (h : Members.get? members key = some (.array (Node.estreeItems nodes))) :
    Writes members ⟨key, .sequence⟩ nodes := by
  have hpresent := present?_of_get h rfl
  constructor
  · simp [Slot.isFilled, hpresent]
  · rw [Slot.nodes, hpresent]
    exact oneOrMany_items Json.telling_id nodes

theorem writes_text {s : String} (h : Members.get? members key = some (.string s)) :
    Writes members ⟨key, .text⟩ [] := by
  have hpresent := present?_of_get h rfl
  constructor
  · simp [Slot.isFilled, hpresent, Json.asString?]
  · rfl

theorem writes_nothing (h : Members.get? members key = none) :
    Writes members ⟨key, .statements⟩ [] := by
  refine ⟨rfl, ?_⟩
  rw [Slot.nodes, h]
  rfl

theorem writes_statements {nodes : List Node}
    (hnodes : ∀ n ∈ nodes, isStatementType n.typeName = true)
    (h : Members.get? members key = some (.array (Node.estreeItems nodes))) :
    Writes members ⟨key, .statements⟩ nodes := by
  have hitems : oneOrMany (some (.array (Node.estreeItems nodes))) = nodes.map Node.toEstree :=
    oneOrMany_items Json.telling_id nodes
  refine ⟨rfl, ?_⟩
  rw [Slot.nodes, h, hitems, List.filter_eq_self]
  intro v hv
  obtain ⟨n, hn, rfl⟩ := List.mem_map.1 hv
  exact (holdsStatements_tell_toEstree Json.telling_id n).trans (hnodes n hn)

/-- What is said of all slots, each of them filled, is said of the nodes written in them. -/
theorem forall_slots_iff {names : List Slot} {nodes : List (List Node)}
    (h : List.Forall₂ (Writes members) names nodes) {P : Json → Prop} :
    (∀ slot ∈ names, slot.isFilled members = true ∧ ∀ v ∈ slot.nodes members, P v) ↔
      ∀ n ∈ nodes.flatten, P n.toEstree := by
  induction h with
  | nil => simp
  | @cons slot ns names nodes hslot hrest ih =>
    rw [List.forall_mem_cons, ih, hslot.filled, hslot.nodes_eq]
    simp [or_imp, forall_and]

/-! ## Nodes -/

/-- Of the slots of an unsupported node only the one for its statements is written. -/
theorem written_statements {kind : String} {name : Option String} {children : List Node}
    (hchildren : ∀ c ∈ children, isStatementType c.typeName = true) :
    List.Forall₂ (Writes (membersOf (.unsupported kind name children)))
      (statementSlots.map (⟨·, .statements⟩)) [[], [], [], [], [], children, []] := by
  obtain ⟨hnothing, hwritten⟩ := get?_unsupported kind name children
  simp only [List.forall_mem_cons] at hnothing
  obtain ⟨h₁, h₂, h₃, h₄, h₅, h₇, -⟩ := hnothing
  have hbody : Writes (membersOf (.unsupported kind name children)) ⟨"body", .statements⟩
      children := by
    cases children with
    | nil => exact writes_nothing hwritten
    | cons first rest => exact writes_statements hchildren hwritten
  refine .cons (writes_nothing h₁) (.cons (writes_nothing h₂) (.cons (writes_nothing h₃) ?_))
  refine .cons (writes_nothing h₄) (.cons (writes_nothing h₅) (.cons hbody ?_))
  exact .cons (writes_nothing h₇) .nil

/-- What is written in the slots of a node that keeps its data, unless it is a number, are its
parts. -/
theorem written_slots {n : Node}
    (h : (∃ d, n = .literal (.number d)) ∨ keepsItsData n = true) :
    ∃ nodes, List.Forall₂ (Writes (membersOf n)) (slots n.typeName) nodes ∧
      nodes.flatten = n.parts := by
  cases n with
  | program body => exact ⟨[body], .cons (writes_sequence rfl) .nil, by simp [Node.parts]⟩
  | function id params body =>
    refine ⟨[[id], params, [body]], .cons (writes_required rfl) ?_, by simp [Node.parts]⟩
    exact .cons (writes_sequence rfl) (.cons (writes_required rfl) .nil)
  | block body => exact ⟨[body], .cons (writes_sequence rfl) .nil, by simp [Node.parts]⟩
  | «variables» keyword declarations =>
    exact ⟨[declarations], .cons (writes_sequence rfl) .nil, by simp [Node.parts]⟩
  | declarator id init =>
    refine ⟨[[id], init.toList], .cons (writes_required rfl) ?_, by simp [Node.parts]⟩
    exact .cons (writes_optional rfl) .nil
  | expression e => exact ⟨[[e]], .cons (writes_required rfl) .nil, by simp [Node.parts]⟩
  | assignment operator left right =>
    refine ⟨[[left], [right]], .cons (writes_required rfl) ?_, by simp [Node.parts]⟩
    exact .cons (writes_required rfl) .nil
  | «while» test body =>
    refine ⟨[[test], [body]], .cons (writes_required rfl) ?_, by simp [Node.parts]⟩
    exact .cons (writes_required rfl) .nil
  | «if» test consequent alternate =>
    refine ⟨[[test], [consequent], alternate.toList], .cons (writes_required rfl) ?_,
      by simp [Node.parts]⟩
    exact .cons (writes_required rfl) (.cons (writes_optional rfl) .nil)
  | «for» init test update body =>
    refine ⟨[init.toList, test.toList, update.toList, [body]], .cons (writes_optional rfl) ?_,
      by simp [Node.parts]⟩
    refine .cons (writes_optional rfl) (.cons (writes_optional rfl) ?_)
    exact .cons (writes_required rfl) .nil
  | «return» argument =>
    exact ⟨[argument.toList], .cons (writes_optional rfl) .nil, by simp [Node.parts]⟩
  | member object property computed =>
    refine ⟨[[object], [property]], .cons (writes_required rfl) ?_, by simp [Node.parts]⟩
    exact .cons (writes_required rfl) .nil
  | binary operator left right | logical operator left right =>
    refine ⟨[[], [left], [right]], .cons (writes_text rfl) ?_, by simp [Node.parts]⟩
    exact .cons (writes_required rfl) (.cons (writes_required rfl) .nil)
  | unary operator argument =>
    refine ⟨[[], [argument]], .cons (writes_text rfl) ?_, by simp [Node.parts]⟩
    exact .cons (writes_required rfl) .nil
  | literal value => exact ⟨[], .nil, rfl⟩
  | identifier name => exact ⟨[[]], .cons (writes_text rfl) .nil, rfl⟩
  | unsupported kind name children =>
    rcases h with ⟨d, hd⟩ | hkeeps
    · cases hd
    · simp only [keepsItsData, Bool.and_eq_true, Bool.not_eq_true', List.contains_eq_mem,
        decide_eq_false_iff_not, List.all_eq_true] at hkeeps
      obtain ⟨hkind, hchildren⟩ := hkeeps
      rw [Node.typeName, slots_unsupported hkind]
      exact ⟨_, written_statements hchildren, by simp [Node.parts]⟩

variable {n : Node} {limit depth : Nat} {e : AnalysisError}

/-- With one level more a written node is read if its parts are. -/
theorem node_toEstree_succ_iff (h : n.KeepsAllButNumbers) :
    (∃ u, node limit (depth + 1) n.toEstree = .ok u) ↔
      ∀ p ∈ n.parts, ∃ u, node limit depth p.toEstree = .ok u := by
  obtain ⟨nodes, hslots, hparts⟩ := written_slots (h 0 n (.here n))
  have htype : Members.get? (membersOf n) "type" = some (.string n.typeName) := rfl
  rw [← hparts, ← forall_slots_iff hslots (P := fun v => ∃ u, node limit depth v = .ok u),
    ← ofMembers_ok_iff, ← node_object htype]
  rfl

/-- A written tree is read if there are as many levels as its nodes lie deep. -/
theorem node_toEstree_ok_iff (h : n.KeepsAllButNumbers) :
    (∃ u, node limit depth n.toEstree = .ok u) ↔ n.Within depth := by
  induction depth generalizing n with
  | zero =>
    constructor
    · rintro ⟨u, hu⟩
      cases hu
    · intro hwithin
      exact absurd hwithin.pos (Nat.lt_irrefl 0)
  | succ depth ih =>
    rw [node_toEstree_succ_iff h, Node.within_succ_iff]
    exact forall₂_congr fun p hp => ih (h.part hp)

/-- A written tree is refused only for its nesting. -/
theorem node_toEstree_error (h : n.KeepsAllButNumbers)
    (he : node limit depth n.toEstree = .error e) : e = .nestingTooDeep limit := by
  induction depth generalizing n with
  | zero =>
    cases he
    rfl
  | succ depth ih =>
    obtain ⟨nodes, hslots, hparts⟩ := written_slots (h 0 n (.here n))
    have htype : Members.get? (membersOf n) "type" = some (.string n.typeName) := rfl
    have hmembers := (forall_slots_iff hslots (P := fun v => ∃ p ∈ n.parts, v = p.toEstree)).2
      fun p hp => ⟨p, hparts ▸ hp, rfl⟩
    have hread : ofMembers (node limit depth) n.typeName (membersOf n) = .error e :=
      (node_object htype).symm.trans he
    obtain ⟨slot, hslot, ⟨hfilled, -⟩ | ⟨v, hv, herror⟩⟩ := exists_error_of_ofMembers hread
    · rw [(hmembers slot hslot).1] at hfilled
      cases hfilled
    · obtain ⟨p, hp, rfl⟩ := (hmembers slot hslot).2 v hv
      exact ih (h.part hp) herror

/-- A written program is read if none of its nodes lies deeper than the limit, and is refused for its
nesting otherwise. -/
theorem readValue_toEstree {body : List Node} (h : (Node.program body).KeepsAllButNumbers)
    (limit : Nat) :
    ((Node.program body).Within (limit + 1) ∧
        ∃ u, readValue limit (Node.program body).toEstree = .ok u) ∨
      (¬ (Node.program body).Within (limit + 1) ∧
        readValue limit (Node.program body).toEstree = .error (.nestingTooDeep limit)) := by
  have hok : (∃ u, node limit (limit + 1) (Node.program body).toEstree = .ok u) ↔
      (Node.program body).Within (limit + 1) := node_toEstree_ok_iff h
  cases hread : node limit (limit + 1) (Node.program body).toEstree with
  | ok u =>
    have hprogram : u.isProgram = true := (isProgram_of_node hread).2 rfl
    refine .inl ⟨hok.1 ⟨u, hread⟩, u, ?_⟩
    rw [readValue, hread]
    exact if_pos hprogram
  | error e =>
    refine .inr ⟨fun hwithin => ?_, ?_⟩
    · obtain ⟨u, hu⟩ := hok.2 hwithin
      rw [hread] at hu
      cases hu
    · rw [readValue, hread, node_toEstree_error h hread]
      rfl

end Estree

end ScriptOutline
