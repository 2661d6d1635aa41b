import Mathlib.Tactic.Common
import ScriptOutline.Proofs.Estree.Grammar
import ScriptOutline.Proofs.Estree.RoundTrip

/-!
# Trees that were read

ESTree can say the same in many ways: members that are not read, single nodes where a list should be,
`null` items, statements in seven slots, literals told by other members than their value. A tree that
was read has none of this left. Every node of it is one that keeps its data when it is written, finite
numbers provided, and none lies deeper than the limit it was read with. So what is written for it is
read as the same tree again, with the same limit.

What one node is made of says it all: its parts are the nodes that were read in its slots
(`parts_assemble`), its type is the type that was read (`typeName_assemble`), and its own data can be
written (`keepsItsData_literal` for literals, the types of the children for unsupported nodes).
-/

namespace ScriptOutline

namespace Estree

open Json (Members)

variable {self : Json → Result Node} {kind : String} {members : Members}

/-! ## One node -/

/-- A node that is read in slots is read from a value in one of them. -/
theorem exists_of_readSlots {names : List Slot} {nodes : List (List Node)}
    (h : readSlots self kind members names = .ok nodes) {n : Node} (hn : n ∈ nodes.flatten) :
    ∃ slot ∈ names, ∃ v ∈ slot.nodes members, self v = .ok n := by
  obtain ⟨ns, hns, hn⟩ := List.mem_flatten.1 hn
  obtain ⟨slot, hslot, hread⟩ := exists_of_mapM h hns
  unfold Slot.read at hread
  split at hread
  · rw [all_eq_mapM] at hread
    exact ⟨slot, hslot, exists_of_mapM hread hn⟩
  · cases hread

/-- The parts of a node are what was read in its slots, one after the other. -/
theorem parts_assemble (self : Json → Result Node) (kind : String) (members : Members) :
    Ensures (readSlots self kind members (slots kind)) fun nodes =>
      (assemble kind members nodes).parts = nodes.flatten := by
  by_cases hkind : kind ∈ Node.supportedNames
  · simp only [Node.supportedNames, List.mem_cons, List.not_mem_nil, or_false] at hkind
    rcases hkind with rfl | rfl | rfl | rfl | rfl | rfl | rfl | rfl | rfl | rfl | rfl | rfl | rfl |
      rfl | rfl | rfl | rfl <;>
    simp [slots, readSlots, read_required, read_optional, read_sequence, read_text, assemble,
      nodeAt, nodesAt, Node.parts]
  · intro nodes _
    rw [assemble_unsupported hkind, Node.parts]

/-- A node has the type it was read with. -/
theorem typeName_assemble (kind : String) (members : Members) (nodes : List (List Node)) :
    (assemble kind members nodes).typeName = kind := by
  unfold assemble
  split <;> rfl

/-- A literal that was read keeps its data, unless it is a number: a regular expression is put
together from a pattern and flags. -/
theorem keepsItsData_literal (members : Members) :
    (∃ d, literal members = .number d) ∨ keepsItsData (.literal (literal members)) = true := by
  cases hliteral : literal members with
  | number d => exact .inl ⟨d, rfl⟩
  | regexp source =>
    refine .inr ((Literal.regexpParts?_isSome_iff source).2 ?_)
    unfold literal at hliteral
    simp only at hliteral
    split at hliteral
    · cases hliteral
      simp
    · repeat' split at hliteral
      all_goals cases hliteral
  | string | boolean | null => exact .inr rfl

/-- A node that was read keeps its own data, unless it is a number. Of an unsupported node that is so
because only values that hold statements are read as its children. -/
theorem keepsItsData_assemble {nodes : List (List Node)}
    (hchildren : kind ∉ Node.supportedNames →
      ∀ p ∈ nodes.flatten, isStatementType p.typeName = true) :
    (∃ d, assemble kind members nodes = .literal (.number d)) ∨
      keepsItsData (assemble kind members nodes) = true := by
  by_cases hkind : kind ∈ Node.supportedNames
  · by_cases hliteral : kind = "Literal"
    · subst hliteral
      rcases keepsItsData_literal members with ⟨d, hd⟩ | hkeeps
      · exact .inl ⟨d, congrArg Node.literal hd⟩
      · exact .inr hkeeps
    · simp only [Node.supportedNames, List.mem_cons, List.not_mem_nil, or_false] at hkind
      rcases hkind with rfl | rfl | rfl | rfl | rfl | rfl | rfl | rfl | rfl | rfl | rfl | rfl |
        rfl | rfl | rfl | rfl | rfl
      all_goals first
        | exact .inr rfl
        | exact absurd rfl hliteral
  · rw [assemble_unsupported hkind]
    simp only [keepsItsData, Bool.and_eq_true, Bool.not_eq_true', List.contains_eq_mem,
      decide_eq_false_iff_not, List.all_eq_true]
    exact .inr ⟨hkind, hchildren hkind⟩

/-! ## Trees -/

variable {limit depth : Nat} {v : Json}

/-- What a node that was read has to show: the type that was read, data that can be written in every
node of it, numbers apart, and as many levels as were left. -/
structure IsNormal (depth : Nat) (v : Json) (n : Node) : Prop where
  typeName : typeOf? v = some n.typeName
  keeps : n.KeepsAllButNumbers
  within : n.Within depth

/-- A value that holds statements is read as a node that does. -/
theorem IsNormal.isStatementType {n : Node} (h : IsNormal depth v n)
    (hv : holdsStatements v = true) : isStatementType n.typeName = true := by
  have htype := h.typeName
  rw [typeOf?] at htype
  rwa [holdsStatements, htype] at hv

/-- A node is in normal form if what is read in its slots is. -/
theorem isNormal_assemble {nodes : List (List Node)}
    (htype : Members.get? members "type" = some (.string kind))
    (hread : readSlots self kind members (slots kind) = .ok nodes)
    (hself : ∀ w, Ensures (self w) (IsNormal depth w)) :
    IsNormal (depth + 1) (.object members) (assemble kind members nodes) := by
  have hparts := parts_assemble self kind members nodes hread
  have hnodes : ∀ p ∈ (assemble kind members nodes).parts,
      ∃ slot ∈ slots kind, ∃ w ∈ slot.nodes members, IsNormal depth w p := by
    intro p hp
    rw [hparts] at hp
    obtain ⟨slot, hslot, w, hw, hself'⟩ := exists_of_readSlots hread hp
    exact ⟨slot, hslot, w, hw, hself w p hself'⟩
  constructor
  · rw [typeName_assemble]
    exact typeOf_iff.2 htype
  · refine Node.forall_lies_iff.2 ⟨keepsItsData_assemble fun hkind p hp => ?_, fun p hp => ?_⟩
    · rw [← hparts] at hp
      obtain ⟨slot, hslot, w, hw, hnormal⟩ := hnodes p hp
      rw [slots_unsupported hkind] at hslot
      obtain ⟨name, -, rfl⟩ := List.mem_map.1 hslot
      exact hnormal.isStatementType (List.mem_filter.1 hw).2
    obtain ⟨-, -, w, -, hnormal⟩ := hnodes p hp
    exact hnormal.keeps
  · refine Node.within_succ_iff.2 fun p hp => ?_
    obtain ⟨-, -, w, -, hnormal⟩ := hnodes p hp
    exact hnormal.within

/-- Every node that is read is in normal form, by induction on the levels left. -/
theorem ensures_node (limit depth : Nat) (v : Json) :
    Ensures (node limit depth v) (IsNormal depth v) := by
  induction depth generalizing v with
  | zero => exact .error
  | succ depth ih =>
    intro n hn
    cases v with
    | object members =>
      cases htype : (Members.get? members "type").bind Json.asString? with
      | none =>
        rw [node, htype] at hn
        cases hn
      | some kind =>
        have htype := typeOf_iff.1 htype
        rw [node_object htype, ofMembers_eq_assemble] at hn
        cases hread : readSlots (node limit depth) kind members (slots kind) with
        | error e =>
          rw [hread] at hn
          cases hn
        | ok nodes =>
          rw [hread] at hn
          cases hn
          exact isNormal_assemble htype hread ih
    | null | boolean | number | string | array => cases hn

/-- A whole tree that was read is a program in normal form. -/
theorem ensures_readValue (limit : Nat) (v : Json) :
    Ensures (readValue limit v) fun t =>
      ∃ body, t = .program body ∧ IsNormal (limit + 1) v (.program body) := by
  refine (ensures_node limit (limit + 1) v).bind fun t ht => ?_
  cases t with
  | program body => exact .pure ⟨body, rfl, ht⟩
  | _ => exact .error

/-- Reading ESTree gives a normal form. What is written for a tree that was read is read with the
same limit, and as the same tree, numbers compared as numbers, provided that these are finite. -/
theorem readValue_again {t : Node} (hread : readValue limit v = .ok t)
    (hfinite : ∀ k d, Node.Lies t k (.literal (.number d)) → d.isFinite = true) :
    ∃ u, readValue limit t.toEstree = .ok u ∧ u.sameValue t = true := by
  obtain ⟨body, rfl, hnormal⟩ := ensures_readValue limit v t hread
  refine (yields_readValue Json.retelling_id limit body).2 fun k m hm => ⟨?_, ?_⟩
  · rcases hnormal.keeps k m hm with ⟨d, rfl⟩ | hkeeps
    · exact hfinite k d hm
    · exact hkeeps
  · exact Nat.le_of_lt_succ (hnormal.within k m hm)

/-- A program with a single `switch` statement in place of a list, with a position that is not read.
Its only case stands alone, and the statement of that behind a `null`. -/
def switchValue : Json :=
  .object [("type", .string "Program"), ("start", .number (.integer 0)),
    ("body", .object [("type", .string "SwitchStatement"),
      ("cases", .object [("type", .string "SwitchCase"),
        ("consequent", .array [.null, .object [("type", .string "ExpressionStatement"),
          ("expression", .object [("type", .string "Literal"),
            ("value", .number (.float (.finite true .zero)))])]])])])]

/-- The tree of the `switch` statement. -/
def switchTree : Node :=
  .program [.unsupported "SwitchStatement" none [.unsupported "SwitchCase" none
    [.expression (.literal (.number (.finite true .zero)))]]]

theorem isFinite_of_lies_switchTree {k : Nat} {d : Double}
    (h : Node.Lies switchTree k (.literal (.number d))) : d.isFinite = true := by
  cases h with
  | inside hp h =>
    rw [List.mem_singleton.1 hp] at h
    cases h with
    | inside hp h =>
      rw [List.mem_singleton.1 hp] at h
      cases h with
      | inside hp h =>
        rw [List.mem_singleton.1 hp] at h
        cases h with
        | inside hp h =>
          rw [List.mem_singleton.1 hp] at h
          cases h with
          | here => rfl
          | inside hp h => cases hp

/-- The `switch` statement is read with the four levels it has, and again after it was written, with
its statements in other slots and its negative zero without the sign. -/
theorem readValue_again_switch :
    readValue 4 switchValue = .ok switchTree ∧
    (∀ k d, Node.Lies switchTree k (.literal (.number d)) → d.isFinite = true) ∧
    ∃ u, readValue 4 switchTree.toEstree = .ok u ∧ u.sameValue switchTree = true := by
  have hread : readValue 4 switchValue = .ok switchTree := rfl
  have hfinite : ∀ k d, Node.Lies switchTree k (.literal (.number d)) → d.isFinite = true :=
    fun _ _ => isFinite_of_lies_switchTree
  exact ⟨hread, hfinite, readValue_again hread hfinite⟩

end Estree

end ScriptOutline
