import Mathlib.Tactic.Common
import ScriptOutline.Proofs.Estree.Slots

/-!
# The grammar of ESTree

Which JSON values are trees, said without the reader: an object with a type, each slot of which has
what it must have, with nodes that are trees again (`InGrammar`). The reader accepts exactly the
programs among them that are not nested deeper than its limit, and an error tells which of the two
was amiss.

The positions that the reader comes to (`ReadAt`) are also those in values that are no trees, so
that an error can be blamed on one of them. All statements go by induction on the levels left, with
one step for all kinds of nodes.
-/

namespace ScriptOutline

namespace Estree

open Json (Members)

/-- The elements of a sequence: the items of an array that are not `null`, or a value that is
neither an array nor `null`. -/
inductive IsElement : Json → Json → Prop where
  | item {items : List Json} {v : Json} (hv : v ∈ items) (hnull : v ≠ .null) :
      IsElement (.array items) v
  | lone {v : Json} (hnull : v ≠ .null) (harray : ∀ items, v ≠ .array items) : IsElement v v

/-- A slot that has what it must have, with nodes of some sort in it. -/
inductive Holds (P : Json → Prop) : Slot → Members → Prop where
  | required {members : Members} {name : String} {v : Json}
      (h : Members.get? members name = some v) (hnull : v ≠ .null) (hv : P v) :
      Holds P ⟨name, .required⟩ members
  | absent {members : Members} {name : String}
      (h : ∀ v, Members.get? members name = some v → v = .null) :
      Holds P ⟨name, .optional⟩ members
  | optional {members : Members} {name : String} {v : Json}
      (h : Members.get? members name = some v) (hnull : v ≠ .null) (hv : P v) :
      Holds P ⟨name, .optional⟩ members
  | sequence {members : Members} {name : String} {v : Json}
      (h : Members.get? members name = some v) (hnull : v ≠ .null)
      (hv : ∀ w, IsElement v w → P w) :
      Holds P ⟨name, .sequence⟩ members
  | text {members : Members} {name s : String}
      (h : Members.get? members name = some (.string s)) :
      Holds P ⟨name, .text⟩ members
  | statements {members : Members} {name : String}
      (hv : ∀ v w, Members.get? members name = some v → IsElement v w →
        holdsStatements w = true → P w) :
      Holds P ⟨name, .statements⟩ members

/-- The values that are trees. -/
inductive InGrammar : Json → Prop where
  | node {members : Members} {kind : String}
      (htype : Members.get? members "type" = some (.string kind))
      (hslots : ∀ slot ∈ slots kind, Holds InGrammar slot members) :
      InGrammar (.object members)

/-- The type of a value, if it is an object that has one. -/
def typeOf? (v : Json) : Option String := (v.get? "type").bind Json.asString?

/-- `ReadAt root k v` says that the reader comes to the value `k` levels below the root, if nothing
stops it before. -/
inductive ReadAt : Json → Nat → Json → Prop where
  | here (v : Json) : ReadAt v 0 v
  | inside {members : Members} {kind : String} {slot : Slot} {part v : Json} {k : Nat}
      (htype : Members.get? members "type" = some (.string kind)) (hslot : slot ∈ slots kind)
      (hpart : part ∈ slot.nodes members) (h : ReadAt part k v) :
      ReadAt (.object members) (k + 1) v

/-! ## Slots of the grammar -/

variable {members : Members} {slot : Slot} {name kind : String} {v w : Json} {P : Json → Prop}

theorem isNull_eq_false_iff : v.isNull = false ↔ v ≠ .null := by
  cases v <;> simp [Json.isNull]

theorem present?_eq_some_iff :
    present? members name = some v ↔ Members.get? members name = some v ∧ v ≠ .null := by
  simp [present?, Option.filter_eq_some_iff, isNull_eq_false_iff]

theorem present?_eq_none_iff :
    present? members name = none ↔ ∀ v, Members.get? members name = some v → v = .null := by
  simp only [present?, Option.filter_eq_none_iff, Bool.not_eq_true, Bool.not_eq_false']
  constructor
  · intro h v hv
    have hnull := h v hv
    cases v <;> simp_all [Json.isNull]
  · intro h v hv
    rw [h v hv]
    rfl

theorem mem_oneOrMany_iff : w ∈ oneOrMany (some v) ↔ IsElement v w := by
  constructor
  · intro h
    cases v with
    | null => cases h
    | array items =>
      obtain ⟨hw, hnull⟩ := List.mem_filter.1 h
      exact .item hw (isNull_eq_false_iff.1 (by simpa using hnull))
    | boolean | number | string | object =>
      rw [List.mem_singleton.1 h]
      exact .lone (by simp) (by simp)
  · intro h
    cases h with
    | item hw hnull =>
      exact List.mem_filter.2 ⟨hw, by simp [isNull_eq_false_iff.2 hnull]⟩
    | lone hnull harray =>
      cases v with
      | null => exact absurd rfl hnull
      | array items => exact absurd rfl (harray items)
      | boolean | number | string | object => exact List.mem_singleton_self _

theorem mem_nodes_statements :
    w ∈ Slot.nodes members ⟨name, .statements⟩ ↔
      ∃ v, Members.get? members name = some v ∧ IsElement v w ∧ holdsStatements w = true := by
  rw [Slot.nodes, List.mem_filter]
  cases Members.get? members name with
  | none => simp [oneOrMany]
  | some v => simp [mem_oneOrMany_iff]

/-- The grammar asks of a slot what the reader does: that it is filled, and something of each of its
nodes. -/
theorem holds_iff :
    Holds P slot members ↔
      slot.isFilled members = true ∧ ∀ v ∈ slot.nodes members, P v := by
  obtain ⟨name, use⟩ := slot
  constructor
  · intro h
    cases h with
    | required h hnull hv =>
      have hpresent := present?_eq_some_iff.2 ⟨h, hnull⟩
      simpa [Slot.isFilled, Slot.nodes, hpresent] using hv
    | absent h =>
      simp [Slot.isFilled, Slot.nodes, present?_eq_none_iff.2 h]
    | optional h hnull hv =>
      have hpresent := present?_eq_some_iff.2 ⟨h, hnull⟩
      simpa [Slot.isFilled, Slot.nodes, hpresent] using hv
    | sequence h hnull hv =>
      have hpresent := present?_eq_some_iff.2 ⟨h, hnull⟩
      simpa [Slot.isFilled, Slot.nodes, hpresent, mem_oneOrMany_iff] using hv
    | text h =>
      have hpresent := present?_eq_some_iff.2 ⟨h, Json.noConfusion⟩
      simp [Slot.isFilled, Slot.nodes, hpresent, Json.asString?]
    | statements hv =>
      refine ⟨rfl, fun w hw => ?_⟩
      obtain ⟨v, hget, helement, hholds⟩ := mem_nodes_statements.1 hw
      exact hv v w hget helement hholds
  · rintro ⟨hfilled, hnodes⟩
    cases use with
    | required =>
      obtain ⟨v, hv⟩ := Option.isSome_iff_exists.1 hfilled
      obtain ⟨hget, hnull⟩ := present?_eq_some_iff.1 hv
      exact .required hget hnull (hnodes v (by simp [Slot.nodes, hv]))
    | optional =>
      cases hv : present? members name with
      | none => exact .absent (present?_eq_none_iff.1 hv)
      | some v =>
        obtain ⟨hget, hnull⟩ := present?_eq_some_iff.1 hv
        exact .optional hget hnull (hnodes v (by simp [Slot.nodes, hv]))
    | sequence =>
      obtain ⟨v, hv⟩ := Option.isSome_iff_exists.1 hfilled
      obtain ⟨hget, hnull⟩ := present?_eq_some_iff.1 hv
      refine .sequence hget hnull fun w hw => hnodes w ?_
      simpa [Slot.nodes, hv] using mem_oneOrMany_iff.2 hw
    | text =>
      obtain ⟨s, hs⟩ := Option.isSome_iff_exists.1 hfilled
      obtain ⟨v, hv, hstring⟩ := Option.bind_eq_some_iff.1 hs
      cases v with
      | string t => exact .text (present?_eq_some_iff.1 hv).1
      | null | boolean | number | array | object => cases hstring
    | statements =>
      refine .statements fun v w hget helement hholds => hnodes w ?_
      exact mem_nodes_statements.2 ⟨v, hget, helement, hholds⟩

/-! ## Nodes -/

variable {limit depth : Nat} {e : AnalysisError}

theorem typeOf_iff :
    (Members.get? members "type").bind Json.asString? = some kind ↔
      Members.get? members "type" = some (.string kind) := by
  cases Members.get? members "type" with
  | none => simp
  | some v => cases v <;> simp [Json.asString?]

theorem node_object (htype : Members.get? members "type" = some (.string kind)) :
    node limit (depth + 1) (.object members) = ofMembers (node limit depth) kind members := by
  rw [node, typeOf_iff.2 htype]

/-- An object is a tree if its slots hold trees. -/
theorem inGrammar_object_iff (htype : Members.get? members "type" = some (.string kind)) :
    InGrammar (.object members) ↔ ∀ slot ∈ slots kind, Holds InGrammar slot members := by
  constructor
  · intro h
    cases h with
    | node htype' hslots =>
      rw [htype] at htype'
      cases htype'
      exact hslots
  · exact .node htype

/-- What is said of every position below an object is said of the object and of every position below
its nodes. -/
theorem forall_readAt_object_iff {Q : Nat → Json → Prop}
    (htype : Members.get? members "type" = some (.string kind)) :
    (∀ k w, ReadAt (.object members) k w → Q k w) ↔
      Q 0 (.object members) ∧
        ∀ slot ∈ slots kind, ∀ part ∈ slot.nodes members, ∀ k w, ReadAt part k w → Q (k + 1) w := by
  constructor
  · intro h
    refine ⟨h 0 _ (.here _), ?_⟩
    intro slot hslot part hpart k w hw
    exact h (k + 1) w (.inside htype hslot hpart hw)
  · rintro ⟨hroot, hparts⟩ k w hw
    cases hw with
    | here => exact hroot
    | inside htype' hslot hpart hw =>
      rw [htype] at htype'
      cases htype'
      exact hparts _ hslot _ hpart _ _ hw

/-- A value is read with some levels left if it is a tree and all its positions lie above the last
level. -/
theorem node_ok_iff :
    (∃ n, node limit depth v = .ok n) ↔ InGrammar v ∧ ∀ k w, ReadAt v k w → k < depth := by
  induction depth generalizing v with
  | zero =>
    constructor
    · rintro ⟨n, hn⟩
      cases hn
    · rintro ⟨-, hdepth⟩
      exact absurd (hdepth 0 v (.here v)) (Nat.lt_irrefl 0)
  | succ depth ih =>
    cases v with
    | object members =>
      cases htype : (Members.get? members "type").bind Json.asString? with
      | none =>
        constructor
        · rintro ⟨n, hn⟩
          rw [node, htype] at hn
          cases hn
        · rintro ⟨hgrammar, -⟩
          cases hgrammar with
          | node htype' hslots =>
            rw [typeOf_iff.2 htype'] at htype
            cases htype
      | some kind =>
        have htype := typeOf_iff.1 htype
        rw [node_object htype, ofMembers_ok_iff, inGrammar_object_iff htype,
          forall_readAt_object_iff htype]
        simp only [holds_iff, ih, Nat.succ_pos, true_and, Nat.add_lt_add_iff_right]
        constructor
        · intro h
          refine ⟨fun slot hslot => ⟨(h slot hslot).1, fun v hv => ?_⟩, fun slot hslot v hv => ?_⟩
          · exact ((h slot hslot).2 v hv).1
          · exact ((h slot hslot).2 v hv).2
        · rintro ⟨hgrammar, hdepth⟩ slot hslot
          refine ⟨(hgrammar slot hslot).1, fun v hv => ?_⟩
          exact ⟨(hgrammar slot hslot).2 v hv, hdepth slot hslot v hv⟩
    | null | boolean | number | string | array =>
      constructor
      · rintro ⟨n, hn⟩
        cases hn
      · rintro ⟨hgrammar, -⟩
        cases hgrammar

/-- An error that says that a value is no tree. -/
def BlamesTree (e : AnalysisError) : Prop :=
  (∃ kind slot, e = .malformedNode kind slot) ∨ ∃ found, e = .notANode found

/-- A value that is not read has a position below the last level, and the error says so, or it is no
tree, and the error says that. -/
theorem node_error (h : node limit depth v = .error e) :
    (e = .nestingTooDeep limit ∧ ∃ k w, ReadAt v k w ∧ depth ≤ k) ∨
      (BlamesTree e ∧ ¬ InGrammar v) := by
  induction depth generalizing v with
  | zero =>
    cases h
    exact .inl ⟨rfl, 0, v, .here v, Nat.le_refl 0⟩
  | succ depth ih =>
    cases v with
    | object members =>
      cases htype : (Members.get? members "type").bind Json.asString? with
      | none =>
        rw [node, htype] at h
        cases h
        refine .inr ⟨.inl ⟨_, _, rfl⟩, fun hgrammar => ?_⟩
        cases hgrammar with
        | node htype' hslots =>
          rw [typeOf_iff.2 htype'] at htype
          cases htype
      | some kind =>
        have htype := typeOf_iff.1 htype
        rw [node_object htype] at h
        rw [inGrammar_object_iff htype]
        obtain ⟨slot, hslot, ⟨hfilled, rfl⟩ | ⟨part, hpart, hread⟩⟩ := exists_error_of_ofMembers h
        · refine .inr ⟨.inl ⟨_, _, rfl⟩, fun hslots => ?_⟩
          rw [(holds_iff.1 (hslots slot hslot)).1] at hfilled
          cases hfilled
        · rcases ih hread with ⟨rfl, k, w, hw, hk⟩ | ⟨hblame, hpart'⟩
          · exact .inl ⟨rfl, k + 1, w, .inside htype hslot hpart hw, Nat.succ_le_succ hk⟩
          · refine .inr ⟨hblame, fun hslots => ?_⟩
            exact hpart' ((holds_iff.1 (hslots slot hslot)).2 part hpart)
    | null | boolean | number | string | array =>
      cases h
      refine .inr ⟨.inr ⟨_, rfl⟩, fun hgrammar => ?_⟩
      cases hgrammar

/-! ## Whole trees -/

/-- A node is a program if its kind says so. -/
theorem isProgram_assemble (kind : String) (members : Members) (nodes : List (List Node)) :
    (assemble kind members nodes).isProgram = true ↔ kind = "Program" := by
  by_cases hkind : kind ∈ Node.supportedNames
  · simp only [Node.supportedNames, List.mem_cons, List.not_mem_nil, or_false] at hkind
    rcases hkind with rfl | rfl | rfl | rfl | rfl | rfl | rfl | rfl | rfl | rfl | rfl | rfl | rfl |
      rfl | rfl | rfl | rfl <;>
    simp [assemble, Node.isProgram]
  · rw [assemble_unsupported hkind]
    constructor
    · intro h
      cases h
    · rintro rfl
      exact absurd (by decide) hkind

theorem isProgram_of_node {n : Node} (h : node limit depth v = .ok n) :
    n.isProgram = true ↔ typeOf? v = some "Program" := by
  cases depth with
  | zero => cases h
  | succ depth =>
    cases v with
    | object members =>
      cases htype : (Members.get? members "type").bind Json.asString? with
      | none =>
        rw [node, htype] at h
        cases h
      | some kind =>
        rw [node_object (typeOf_iff.1 htype), ofMembers_eq_assemble] at h
        rw [typeOf?, Json.get?, htype]
        cases hnodes : readSlots (node limit depth) kind members (slots kind) with
        | error e =>
          rw [hnodes] at h
          cases h
        | ok nodes =>
          rw [hnodes] at h
          cases h
          rw [isProgram_assemble]
          simp
    | null | boolean | number | string | array => cases h

/-- A value is read as a whole tree if and only if it is a tree of the type of programs and the
reader comes to no position below its limit. If it is not read, the error complains about the
nesting only if the reader comes to such a position, and about anything else only if the value is no
tree or its root no program. -/
theorem readValue_accepts (limit : Nat) (v : Json) :
    ((∃ n, readValue limit v = .ok n) ↔
      InGrammar v ∧ typeOf? v = some "Program" ∧ ∀ k w, ReadAt v k w → k ≤ limit) ∧
    ∀ e, readValue limit v = .error e →
      (e = .nestingTooDeep limit ∧ ∃ k w, ReadAt v k w ∧ limit < k) ∨
      ((BlamesTree e ∨ ∃ kind, e = .rootNotProgram kind) ∧
        ¬ (InGrammar v ∧ typeOf? v = some "Program")) := by
  have hok : (∃ n, node limit (limit + 1) v = .ok n) ↔
      InGrammar v ∧ ∀ k w, ReadAt v k w → k < limit + 1 := node_ok_iff
  simp only [Nat.lt_succ_iff] at hok
  cases hnode : node limit (limit + 1) v with
  | error e =>
    have hread : readValue limit v = .error e := by
      rw [readValue, hnode]
      rfl
    rw [hread]
    rw [hnode] at hok
    constructor
    · constructor
      · rintro ⟨n, hn⟩
        cases hn
      · rintro ⟨hgrammar, -, hdepth⟩
        obtain ⟨n, hn⟩ := hok.2 ⟨hgrammar, hdepth⟩
        cases hn
    · rintro f hf
      cases hf
      rcases node_error hnode with hdeep | ⟨hblame, hgrammar⟩
      · exact .inl hdeep
      · exact .inr ⟨.inl hblame, fun h => hgrammar h.1⟩
  | ok n =>
    have hprogram := isProgram_of_node hnode
    obtain ⟨hgrammar, hdepth⟩ := hok.1 ⟨n, hnode⟩
    by_cases hroot : n.isProgram = true
    · have hread : readValue limit v = .ok n := by
        rw [readValue, hnode]
        exact if_pos hroot
      rw [hread]
      constructor
      · exact ⟨fun _ => ⟨hgrammar, hprogram.1 hroot, hdepth⟩, fun _ => ⟨n, rfl⟩⟩
      · intro e he
        cases he
    · have hread : readValue limit v = .error (.rootNotProgram n.typeName) := by
        rw [readValue, hnode]
        exact if_neg hroot
      rw [hread]
      constructor
      · constructor
        · rintro ⟨m, hm⟩
          cases hm
        · rintro ⟨-, htype, -⟩
          exact absurd (hprogram.2 htype) hroot
      · intro e he
        cases he
        exact .inr ⟨.inr ⟨_, rfl⟩, fun h => hroot (hprogram.2 h.2)⟩

end Estree

end ScriptOutline
