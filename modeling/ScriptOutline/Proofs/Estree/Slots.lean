import Mathlib.Tactic.Common
import ScriptOutline.Estree.Reader
import ScriptOutline.Proofs.Yields

/-!
# Slots

What a kind of node reads of its members, as a table: the names of the slots in the order they are
read, and how each of them is used. Reading a node of a kind is nothing but reading its slots one
after the other and putting together what was found (`ofMembers_eq_assemble`). So what can be said
of all kinds alike is said of slots, and the kinds are told apart only here.
-/

namespace ScriptOutline

namespace Estree

open Json (Members)

/-- How a member is used. -/
inductive Use where
  /-- A node that must be there. -/
  | required
  /-- A node that may be absent. -/
  | optional
  /-- A sequence of nodes that must be there. -/
  | sequence
  /-- A string that must be there. -/
  | text
  /-- Values that need not be there, and of which only those that hold statements are nodes. -/
  | statements

/-- A member that is read, and how it is used. -/
structure Slot where
  name : String
  use : Use

/-- The slots of a kind in the order they are read. A kind that is not supported only has the slots
that may hold statements. -/
def slots (kind : String) : List Slot :=
  match kind with
  | "Program" => [⟨"body", .sequence⟩]
  | "FunctionDeclaration" => [⟨"id", .required⟩, ⟨"params", .sequence⟩, ⟨"body", .required⟩]
  | "BlockStatement" => [⟨"body", .sequence⟩]
  | "VariableDeclaration" => [⟨"declarations", .sequence⟩]
  | "VariableDeclarator" => [⟨"id", .required⟩, ⟨"init", .optional⟩]
  | "ExpressionStatement" => [⟨"expression", .required⟩]
  | "AssignmentExpression" => [⟨"left", .required⟩, ⟨"right", .required⟩]
  | "WhileStatement" => [⟨"test", .required⟩, ⟨"body", .required⟩]
  | "IfStatement" => [⟨"test", .required⟩, ⟨"consequent", .required⟩, ⟨"alternate", .optional⟩]
  | "ForStatement" =>
    [⟨"init", .optional⟩, ⟨"test", .optional⟩, ⟨"update", .optional⟩, ⟨"body", .required⟩]
  | "ReturnStatement" => [⟨"argument", .optional⟩]
  | "MemberExpression" => [⟨"object", .required⟩, ⟨"property", .required⟩]
  | "BinaryExpression" => [⟨"operator", .text⟩, ⟨"left", .required⟩, ⟨"right", .required⟩]
  | "LogicalExpression" => [⟨"operator", .text⟩, ⟨"left", .required⟩, ⟨"right", .required⟩]
  | "UnaryExpression" => [⟨"operator", .text⟩, ⟨"argument", .required⟩]
  | "Literal" => []
  | "Identifier" => [⟨"name", .text⟩]
  | _ => statementSlots.map (⟨·, .statements⟩)

namespace Slot

/-- Whether the members have what must be in the slot. -/
def isFilled (members : Members) (slot : Slot) : Bool :=
  match slot.use with
  | .required | .sequence => (present? members slot.name).isSome
  | .text => ((present? members slot.name).bind Json.asString?).isSome
  | .optional | .statements => true

/-- The values in the slot that are read as nodes. -/
def nodes (members : Members) (slot : Slot) : List Json :=
  match slot.use with
  | .required | .optional => (present? members slot.name).toList
  | .sequence => oneOrMany (present? members slot.name)
  | .text => []
  | .statements => (oneOrMany (Members.get? members slot.name)).filter holdsStatements

/-- Reads the nodes in the slot of a node of a kind. -/
def read (self : Json → Result Node) (kind : String) (members : Members) (slot : Slot) :
    Result (List Node) :=
  if slot.isFilled members then all self (slot.nodes members)
  else .error (.malformedNode kind slot.name)

end Slot

/-- Reads slots one after the other; the first error wins. -/
def readSlots (self : Json → Result Node) (kind : String) (members : Members) (slots : List Slot) :
    Result (List (List Node)) :=
  slots.mapM (Slot.read self kind members)

/-- The nodes in the slot at a place of the table. -/
def nodesAt (nodes : List (List Node)) (place : Nat) : List Node := nodes.getD place []

/-- The node in a slot that holds one; `null` stands for the case that cannot be. -/
def nodeAt (nodes : List (List Node)) (place : Nat) : Node :=
  (nodesAt nodes place).headD (.literal .null)

/-- Puts a node together from its members and from the nodes in its slots. -/
def assemble (kind : String) (members : Members) (nodes : List (List Node)) : Node :=
  match kind with
  | "Program" => .program (nodesAt nodes 0)
  | "FunctionDeclaration" => .function (nodeAt nodes 0) (nodesAt nodes 1) (nodeAt nodes 2)
  | "BlockStatement" => .block (nodesAt nodes 0)
  | "VariableDeclaration" => .variables (stringOr members "kind" "var") (nodesAt nodes 0)
  | "VariableDeclarator" => .declarator (nodeAt nodes 0) (nodesAt nodes 1).head?
  | "ExpressionStatement" => .expression (nodeAt nodes 0)
  | "AssignmentExpression" =>
    .assignment (stringOr members "operator" "=") (nodeAt nodes 0) (nodeAt nodes 1)
  | "WhileStatement" => .while (nodeAt nodes 0) (nodeAt nodes 1)
  | "IfStatement" => .if (nodeAt nodes 0) (nodeAt nodes 1) (nodesAt nodes 2).head?
  | "ForStatement" =>
    .for (nodesAt nodes 0).head? (nodesAt nodes 1).head? (nodesAt nodes 2).head? (nodeAt nodes 3)
  | "ReturnStatement" => .return (nodesAt nodes 0).head?
  | "MemberExpression" =>
    .member (nodeAt nodes 0) (nodeAt nodes 1)
      (((Members.get? members "computed").bind Json.asBoolean?).getD false)
  | "BinaryExpression" =>
    .binary (stringOr members "operator" "") (nodeAt nodes 1) (nodeAt nodes 2)
  | "LogicalExpression" =>
    .logical (stringOr members "operator" "") (nodeAt nodes 1) (nodeAt nodes 2)
  | "UnaryExpression" => .unary (stringOr members "operator" "") (nodeAt nodes 1)
  | "Literal" => .literal (literal members)
  | "Identifier" => .identifier (stringOr members "name" "")
  | _ => .unsupported kind ((Members.get? members "name").bind Json.asString?) nodes.flatten

/-! ## One slot -/

variable {self : Json → Result Node} {kind name : String} {members : Members}

theorem read_required :
    Slot.read self kind members ⟨name, .required⟩ =
      ([·]) <$> required self members kind name := by
  unfold Slot.read Slot.isFilled Slot.nodes required
  cases present? members name with
  | none => rfl
  | some v => cases hv : self v <;> simp [all, hv] <;> rfl

theorem read_optional :
    Slot.read self kind members ⟨name, .optional⟩ =
      Option.toList <$> optional self members name := by
  unfold Slot.read Slot.isFilled Slot.nodes optional
  cases present? members name with
  | none => rfl
  | some v => cases hv : self v <;> simp [all, hv] <;> rfl

theorem read_sequence :
    Slot.read self kind members ⟨name, .sequence⟩ = many self members kind name := by
  unfold Slot.read Slot.isFilled Slot.nodes many
  cases present? members name <;> rfl

theorem read_text :
    Slot.read self kind members ⟨name, .text⟩ =
      (fun _ => []) <$> requiredString members kind name := by
  unfold Slot.read Slot.isFilled Slot.nodes requiredString
  cases (present? members name).bind Json.asString? <;> rfl

/-- What follows a string that must be there only runs if the string is there. -/
theorem requiredString_bind {α : Type} (f : String → Result α) :
    (requiredString members kind name >>= f) =
      (requiredString members kind name >>= fun _ => f (stringOr members name "")) := by
  unfold requiredString stringOr
  cases (present? members name).bind Json.asString? <;> rfl

theorem requiredString_map {α : Type} (f : String → α) :
    f <$> requiredString members kind name =
      (fun _ => f (stringOr members name "")) <$> requiredString members kind name := by
  unfold requiredString stringOr
  cases (present? members name).bind Json.asString? <;> rfl

theorem all_eq_mapM (self : Json → Result Node) (vs : List Json) : all self vs = vs.mapM self := by
  induction vs with
  | nil => rfl
  | cons v vs ih => rw [all, ih, List.mapM_cons]

/-- The statements of an unsupported node are those in its slots, one slot after the other. -/
theorem readSlots_statements (self : Json → Result Node) (kind : String) (members : Members)
    (names : List String) :
    List.flatten <$> readSlots self kind members (names.map (⟨·, .statements⟩)) =
      all self ((names.flatMap fun slot => oneOrMany (Members.get? members slot)).filter
        holdsStatements) := by
  unfold readSlots
  induction names with
  | nil => rfl
  | cons name rest ih =>
    have hread : Slot.read self kind members ⟨name, .statements⟩ =
        all self ((oneOrMany (Members.get? members name)).filter holdsStatements) := rfl
    rw [List.flatMap_cons, List.filter_append, all_eq_mapM, List.mapM_append, ← all_eq_mapM,
      ← all_eq_mapM, ← ih, List.map_cons, List.mapM_cons, hread]
    cases all self ((oneOrMany (Members.get? members name)).filter holdsStatements) with
    | error e => rfl
    | ok ns =>
      cases List.mapM (Slot.read self kind members) (rest.map (⟨·, .statements⟩)) <;> rfl

theorem ofMembers_unsupported (self : Json → Result Node) (h : kind ∉ Node.supportedNames) :
    ofMembers self kind members = (do
      return .unsupported kind ((Members.get? members "name").bind Json.asString?)
        (← all self (statements members))) := by
  unfold ofMembers
  simp only [Node.supportedNames, List.mem_cons, not_or] at h
  split <;> simp_all

theorem slots_unsupported (h : kind ∉ Node.supportedNames) :
    slots kind = statementSlots.map (⟨·, .statements⟩) := by
  unfold slots
  simp only [Node.supportedNames, List.mem_cons, not_or] at h
  split <;> simp_all

theorem assemble_unsupported (h : kind ∉ Node.supportedNames) (nodes : List (List Node)) :
    assemble kind members nodes =
      .unsupported kind ((Members.get? members "name").bind Json.asString?) nodes.flatten := by
  unfold assemble
  simp only [Node.supportedNames, List.mem_cons, not_or] at h
  split <;> simp_all

/-- Reading a node is reading its slots and putting together what was found. -/
theorem ofMembers_eq_assemble (self : Json → Result Node) (kind : String) (members : Members) :
    ofMembers self kind members =
      assemble kind members <$> readSlots self kind members (slots kind) := by
  by_cases hkind : kind ∈ Node.supportedNames
  · simp only [Node.supportedNames, List.mem_cons, List.not_mem_nil, or_false] at hkind
    rcases hkind with rfl | rfl | rfl | rfl | rfl | rfl | rfl | rfl | rfl | rfl | rfl | rfl | rfl |
      rfl | rfl | rfl | rfl <;>
    simp [ofMembers, slots, readSlots, read_required, read_optional, read_sequence, read_text,
      requiredString_bind, requiredString_map, assemble, nodeAt, nodesAt]
  · have hread := readSlots_statements self kind members statementSlots
    rw [ofMembers_unsupported self hkind, slots_unsupported hkind, statements, ← hread]
    cases readSlots self kind members (statementSlots.map (⟨·, .statements⟩)) with
    | error e => rfl
    | ok nodes =>
      simp [assemble_unsupported hkind]

/-! ## What becomes of slots -/

theorem Slot.read_ok_iff {slot : Slot} :
    (∃ ns, slot.read self kind members = .ok ns) ↔
      slot.isFilled members = true ∧ ∀ v ∈ slot.nodes members, ∃ n, self v = .ok n := by
  unfold Slot.read
  split
  · next hfilled => simp [hfilled, all_eq_mapM, mapM_ok_iff]
  · next hfilled => simp [hfilled]

/-- A node is read if each of its slots has what it must have and the nodes in it are read. -/
theorem ofMembers_ok_iff :
    (∃ n, ofMembers self kind members = .ok n) ↔
      ∀ slot ∈ slots kind, slot.isFilled members = true ∧
        ∀ v ∈ slot.nodes members, ∃ n, self v = .ok n := by
  have hslots := mapM_ok_iff (f := Slot.read self kind members) (l := slots kind)
  simp only [Slot.read_ok_iff] at hslots
  rw [ofMembers_eq_assemble, ← hslots, readSlots]
  cases (slots kind).mapM (Slot.read self kind members) <;> simp

/-- If a node is not read, one of its slots lacks what it must have, or a node in it is not read. -/
theorem exists_error_of_ofMembers {e : AnalysisError} (h : ofMembers self kind members = .error e) :
    ∃ slot ∈ slots kind, slot.isFilled members = false ∧ e = .malformedNode kind slot.name ∨
      ∃ v ∈ slot.nodes members, self v = .error e := by
  rw [ofMembers_eq_assemble, readSlots] at h
  cases hslots : (slots kind).mapM (Slot.read self kind members) with
  | ok nodes =>
    rw [hslots] at h
    cases h
  | error f =>
    rw [hslots] at h
    cases h
    obtain ⟨slot, hslot, hread⟩ := exists_error_of_mapM hslots
    refine ⟨slot, hslot, ?_⟩
    unfold Slot.read at hread
    split at hread
    · rw [all_eq_mapM] at hread
      exact .inr (exists_error_of_mapM hread)
    · next hfilled =>
      cases hread
      exact .inl ⟨by simpa using hfilled, rfl⟩

/-- Two ways to read nodes that agree on the nodes in the slots agree on the whole node. -/
theorem agrees_ofMembers {e : AnalysisError} {other : Json → Result Node}
    (h : ∀ slot ∈ slots kind, ∀ v ∈ slot.nodes members, AgreesUnless e (self v) (other v)) :
    AgreesUnless e (ofMembers self kind members) (ofMembers other kind members) := by
  rw [ofMembers_eq_assemble, ofMembers_eq_assemble]
  refine .map _ (.mapM fun slot hslot => ?_)
  unfold Slot.read
  split
  · rw [all_eq_mapM, all_eq_mapM]
    exact .mapM (h slot hslot)
  · exact .refl _

end Estree

end ScriptOutline
