import Mathlib.Tactic.Common
import ScriptOutline.Proofs.Estree.Reading
import ScriptOutline.Proofs.Estree.WrittenLevels
import ScriptOutline.Proofs.Json.ShortFloat
import ScriptOutline.Proofs.Json.WrittenText
import ScriptOutline.Proofs.Syntax.Numbers

/-!
# The text of a written tree

A tree lies inside its JSON value: a part is nested deeper there than the node it belongs to, so that
a limit on the nesting of JSON also limits the tree. The text of the value, in either layout, is read
unless it is nested too deep. What is read is the tree with other literals in the place of its numbers
(`Double.reread`): a number that is not finite has become `null`, a whole number below the bound or one
with few digits is the same again, and any other number is a number again, but not always the same one.
-/

namespace ScriptOutline

open Json (Members)

namespace Double

/-- The literal that is read from the JSON text of a number. -/
def reread (d : Double) : Literal :=
  match (Literal.number d).toJson.reread with
  | .number (.integer i) => .number (.ofInt i)
  | .number (.float e) => .number e
  | _ => .null

variable {d : Double}

/-- Whole numbers that are written without a fraction are integers again. -/
theorem reread_integer {i : Int} (h : d.toInt? = some i) :
    (Literal.number d).toJson.isRead = true ∧
      (Literal.number d).toJson.reread = .number (.integer i) := by
  obtain ⟨-, -, -, -, hbound, -⟩ := toInt?_eq_some h
  obtain ⟨hread, hreread⟩ := JsonNumber.reread_integer
    (Nat.le_trans (Nat.le_of_lt hbound) (by decide : wholeBound ≤ twoPow 63))
  rw [Literal.toJson, h, Json.isRead, Json.reread, hreread]
  exact ⟨hread, rfl⟩

theorem isFinite_of_toInt? {i : Int} (h : d.toInt? = some i) : d.isFinite = true := by
  obtain ⟨-, -, rfl, -⟩ := toInt?_eq_some h
  rfl

/-- The text of a finite number is read as a number, and that of any other one as `null`. -/
theorem reread_toJson (d : Double) :
    (Literal.number d).toJson.isRead = true ∧
      (d.isFinite = true ∧ (∃ n, (Literal.number d).toJson.reread = .number n) ∨
        d.isFinite = false ∧ (Literal.number d).toJson.reread = .null) := by
  cases hint : d.toInt? with
  | some i =>
    exact ⟨(reread_integer hint).1, .inl ⟨isFinite_of_toInt? hint, _, (reread_integer hint).2⟩⟩
  | none =>
    cases hfinite : d.isFinite with
    | true =>
      obtain ⟨hread, e, he⟩ := JsonNumber.reread_float hfinite
      simp [Literal.toJson, hint, hfinite, Json.isRead, Json.reread, hread, he]
    | false => simp [Literal.toJson, hint, hfinite, Json.isRead, Json.reread]

/-- Whole numbers that are written without a fraction come back. -/
theorem reread_of_toInt? {i : Int} (h : d.toInt? = some i) :
    d.reread.sameValue (.number d) = true := by
  rw [reread, (reread_integer h).2]
  exact ofInt_sameValue_of_toInt? h

/-- Numbers with few digits and a small power of ten come back. -/
theorem reread_of_isShort (h : d.isShort = true) : d.reread.sameValue (.number d) = true := by
  cases hint : d.toInt? with
  | some i => exact reread_of_toInt? hint
  | none =>
    cases d with
    | finite negative size =>
      have hm : 0 < size.mantissa := by
        refine Nat.pos_of_ne_zero fun hzero => ?_
        rw [toInt?_of_mantissa hzero] at hint
        cases hint
      have hread := JsonNumber.reread_short negative hm h
      simp [reread, Literal.toJson, hint, isFinite, Json.reread, hread, Literal.sameValue, sameValue]
    | infinite negative => cases h
    | nan => cases h

/-- What is read in the place of a number: `null` if it is not finite, and a number otherwise, the same
one if it is written without a fraction or with few digits. -/
structure ReadsBack (d : Double) (value : Literal) : Prop where
  infinite : d.isFinite = false → value = .null
  finite : d.isFinite = true → ∃ e, value = .number e
  whole : d.toInt? ≠ none → value.sameValue (.number d) = true
  short : d.isShort = true → value.sameValue (.number d) = true

theorem readsBack_reread (d : Double) : d.ReadsBack d.reread where
  infinite h := by
    obtain ⟨-, ⟨hfinite, -⟩ | ⟨-, hread⟩⟩ := d.reread_toJson
    · rw [h] at hfinite
      cases hfinite
    · rw [reread, hread]
  finite h := by
    obtain ⟨-, ⟨-, i | e, hread⟩ | ⟨hfinite, -⟩⟩ := d.reread_toJson
    · exact ⟨.ofInt i, by rw [reread, hread]⟩
    · exact ⟨e, by rw [reread, hread]⟩
    · rw [h] at hfinite
      cases hfinite
  whole h := by
    obtain ⟨i, hi⟩ := Option.ne_none_iff_exists'.1 h
    exact reread_of_toInt? hi
  short := reread_of_isShort

end Double

namespace Node

variable {n p : Node}

/-! ## Depth -/

theorem depth_le_depthItems {nodes : List Node} (hp : p ∈ nodes) :
    p.toEstree.depth ≤ Json.depthItems (estreeItems nodes) := by
  induction nodes with
  | nil => cases hp
  | cons n rest ih =>
    rw [estreeItems, Json.depthItems]
    rcases List.mem_cons.1 hp with rfl | hp
    · exact Nat.le_max_left _ _
    · exact Nat.le_trans (ih hp) (Nat.le_max_right _ _)

theorem depth_le_depthOption {o : Option Node} (hp : p ∈ o.toList) :
    p.toEstree.depth ≤ (estreeOption o).depth := by
  rw [Option.mem_toList.1 hp]
  exact Nat.le_refl _

theorem depth_members (m : Node) :
    (Json.object (("type", .string m.typeName) :: m.estreeMembers)).depth = m.toEstree.depth := rfl

/-- A part is nested deeper than the node it is a part of. -/
theorem depth_part_lt (hp : p ∈ n.parts) : p.toEstree.depth < n.toEstree.depth := by
  rw [← depth_members n, Json.depth, Json.depthMembers]
  cases n with
  | program body | block body | «variables» keyword body =>
    have hbody : p.toEstree.depth ≤ Json.depthItems (estreeItems body) := depth_le_depthItems hp
    simp only [estreeMembers, Json.depthMembers, Json.depth]
    omega
  | function id params body =>
    simp only [estreeMembers, Json.depthMembers, depth_members]
    have harray : (Json.array (estreeItems params)).depth =
        1 + Json.depthItems (estreeItems params) := by rw [Json.depth]
    simp only [parts, List.mem_cons, List.mem_append, List.not_mem_nil, or_false] at hp
    rcases hp with rfl | hp | rfl
    · omega
    · have hparams := depth_le_depthItems hp
      omega
    · omega
  | declarator id init =>
    simp only [estreeMembers, Json.depthMembers, depth_members]
    rcases List.mem_cons.1 hp with rfl | hp
    · omega
    · have hinit := depth_le_depthOption hp
      omega
  | «if» test consequent alternate =>
    simp only [estreeMembers, Json.depthMembers, depth_members]
    simp only [parts, List.mem_cons] at hp
    rcases hp with rfl | rfl | hp
    · omega
    · omega
    · have halternate := depth_le_depthOption hp
      omega
  | «for» init test update body =>
    simp only [estreeMembers, Json.depthMembers, depth_members]
    simp only [parts, List.mem_append, List.mem_singleton] at hp
    rcases hp with ((hp | hp) | hp) | rfl
    · have hinit := depth_le_depthOption hp
      omega
    · have htest := depth_le_depthOption hp
      omega
    · have hupdate := depth_le_depthOption hp
      omega
    · omega
  | «return» argument =>
    have hargument : p.toEstree.depth ≤ (estreeOption argument).depth := depth_le_depthOption hp
    simp only [estreeMembers, Json.depthMembers]
    omega
  | expression e | unary operator e =>
    simp only [estreeMembers, Json.depthMembers, depth_members]
    rw [List.mem_singleton.1 hp]
    omega
  | assignment _ a b | «while» a b | member a b _ | binary _ a b | logical _ a b =>
    simp only [estreeMembers, Json.depthMembers, depth_members]
    simp only [parts, List.mem_cons, List.not_mem_nil, or_false] at hp
    rcases hp with rfl | rfl
    · omega
    · omega
  | literal value => cases hp
  | identifier name => cases hp
  | unsupported kind name children =>
    have hchildren : p.toEstree.depth ≤ Json.depthItems (estreeItems children) :=
      depth_le_depthItems hp
    cases children with
    | nil => cases hp
    | cons first rest =>
      cases name <;>
        (simp only [estreeMembers, List.nil_append, List.cons_append, Json.depthMembers, Json.depth];
          omega)

/-! ## Numbers -/

theorem itemsAreRead_iff {nodes : List Node} :
    Json.itemsAreRead (estreeItems nodes) = true ↔ ∀ p ∈ nodes, p.toEstree.isRead = true := by
  induction nodes with
  | nil => simp [estreeItems, Json.itemsAreRead]
  | cons n rest ih => simp [estreeItems, Json.itemsAreRead, ih, toEstree]

theorem optionIsRead_iff {o : Option Node} :
    (estreeOption o).isRead = true ↔ ∀ p ∈ o.toList, p.toEstree.isRead = true := by
  cases o with
  | none => simp [estreeOption, Json.isRead]
  | some n => simp [estreeOption, toEstree]

theorem isRead_eq_members (m : Node) :
    m.toEstree.isRead = Json.membersAreRead m.estreeMembers := by
  simp [toEstree, Json.isRead, Json.membersAreRead]

/-- The numbers of a value are those of the parts of the tree and the value of a literal. -/
theorem isRead_of_parts (hparts : ∀ p ∈ n.parts, p.toEstree.isRead = true) :
    n.toEstree.isRead = true := by
  rw [isRead_eq_members]
  cases n with
  | literal value =>
    cases value with
    | number d => simp [estreeMembers, Literal.estreeMembers, Json.membersAreRead, d.reread_toJson.1]
    | regexp source =>
      simp only [estreeMembers, Literal.estreeMembers]
      split <;> simp [Json.membersAreRead, Json.isRead, Literal.toJson]
    | _ => simp [estreeMembers, Literal.estreeMembers, Json.membersAreRead, Json.isRead, Literal.toJson]
  | unsupported kind name children =>
    have hchildren : Json.itemsAreRead (estreeItems children) = true := itemsAreRead_iff.2 hparts
    cases name <;> cases children <;>
      simp_all [estreeMembers, Json.membersAreRead, Json.isRead]
  | identifier name => simp [estreeMembers, Json.membersAreRead, Json.isRead]
  | _ =>
    simpa [parts, estreeMembers, Json.membersAreRead, Json.isRead, isRead_eq_members,
      itemsAreRead_iff, optionIsRead_iff, or_imp, forall_and, and_assoc] using hparts

/-- What is said of a node if it is said of its parts is said of all nodes. -/
theorem induction_parts {P : Node → Prop} (h : ∀ n : Node, (∀ p ∈ n.parts, P p) → P n) (n : Node) :
    P n := by
  induction hd : n.toEstree.depth using Nat.strong_induction_on generalizing n with
  | _ depth ih =>
    exact h n fun p hp => ih _ (hd ▸ depth_part_lt hp) p rfl

/-- All numbers in the value of a tree have texts that are read. -/
theorem isRead_toEstree (n : Node) : n.toEstree.isRead = true :=
  induction_parts (fun _ => isRead_of_parts) n

end Node

namespace Estree

open Json (Layout depthLimit isBlank telling_reread)

variable {told : Members} {key : String} {n : Node}

/-! ## What is read from the text of a node -/

/-- The value that is read from the text of a node stands for the node with other literals in the place
of its numbers. -/
def ComesBackAs (n : Node) : Prop := ReadsAs n.toEstree.reread (n.renumber Double.reread)

theorem stands_reread_optional {o : Option Node}
    (h : Members.get? told key = some (Node.estreeOption o).reread)
    (ho : ∀ n ∈ o.toList, ComesBackAs n) :
    Stands told ⟨key, .optional⟩ (Node.renumberOption Double.reread o).toList := by
  refine stands_optional ?_
  cases o with
  | none =>
    rw [Node.estreeOption, telling_reread.null] at h
    rw [present?_of_null h]
    exact .none
  | some n =>
    have hn : ComesBackAs n := ho n (by simp)
    rw [present?_eq_some_iff.2 ⟨h, hn.ne_null⟩]
    exact .some hn

theorem stands_reread_sequence {nodes : List Node}
    (h : Members.get? told key = some (Json.array (Node.estreeItems nodes)).reread)
    (hnodes : ∀ n ∈ nodes, ComesBackAs n) :
    Stands told ⟨key, .sequence⟩ (Node.renumberAll Double.reread nodes) := by
  rw [telling_reread.array, Node.estreeItems_eq_map, List.map_map] at h
  rw [Node.renumberAll_eq_map]
  refine stands_sequence h ?_
  rw [List.forall₂_map_left_iff, List.forall₂_map_right_iff]
  exact List.forall₂_same.2 hnodes

theorem eq_of_sameValue {value read : Literal} (hvalue : ∀ d, value ≠ .number d)
    (h : read.sameValue value = true) : read = value := by
  cases value with
  | number d => exact absurd rfl (hvalue d)
  | _ => cases read <;> simp_all [Literal.sameValue]

/-- What is read in the place of a literal. -/
theorem literal_reread {value : Literal}
    (hkeeps : (∃ d, value = .number d) ∨ keepsItsData (.literal value) = true)
    (h : ∀ key, Members.get? told key =
      (Members.get? (("type", .string "Literal") :: value.estreeMembers) key).map Json.reread) :
    literal told = value.renumber Double.reread := by
  by_cases hnumber : ∃ d, value = .number d
  · obtain ⟨d, rfl⟩ := hnumber
    obtain ⟨hregex, hbigint, hvalue⟩ := told_of_plain h rfl
    rw [Literal.renumber, Double.reread]
    obtain ⟨-, ⟨-, i | e, hread⟩ | ⟨-, hread⟩⟩ := d.reread_toJson <;>
      simp [literal, hregex, hbigint, hvalue, hread]
  · have hother (d : Double) : value ≠ .number d := fun heq => hnumber ⟨d, heq⟩
    have hsame := (literal_other_iff telling_reread hother h).2 (hkeeps.resolve_left hnumber)
    rw [eq_of_sameValue hother hsame]
    cases value with
    | number d => exact absurd rfl (hother d)
    | _ => rfl

theorem stands_reread_nothing (h : Members.get? told key = none) :
    Stands told ⟨key, .statements⟩ [] := by
  refine ⟨rfl, ?_⟩
  rw [Slot.nodes, h]
  exact .nil

theorem stands_reread_statements {nodes : List Node}
    (hkinds : ∀ n ∈ nodes, isStatementType n.typeName = true)
    (h : Members.get? told key = some (Json.array (Node.estreeItems nodes)).reread)
    (hnodes : ∀ n ∈ nodes, ComesBackAs n) :
    Stands told ⟨key, .statements⟩ (Node.renumberAll Double.reread nodes) := by
  refine ⟨rfl, ?_⟩
  have hholds : ∀ v ∈ nodes.map fun n => n.toEstree.reread, holdsStatements v = true := by
    intro v hv
    obtain ⟨n, hn, rfl⟩ := List.mem_map.1 hv
    exact (holdsStatements_tell_toEstree telling_reread n).trans (hkinds n hn)
  rw [Slot.nodes, h, oneOrMany_items telling_reread, List.filter_eq_self.2 hholds,
    Node.renumberAll_eq_map, List.forall₂_map_left_iff, List.forall₂_map_right_iff]
  exact List.forall₂_same.2 hnodes

/-- Of the slots of an unsupported node only the one for its statements was written. -/
theorem stands_reread_unsupported {kind : String} {name : Option String} {children : List Node}
    (hkinds : ∀ n ∈ children, isStatementType n.typeName = true)
    (h : ∀ key, Members.get? told key =
      (Members.get? (membersOf (.unsupported kind name children)) key).map Json.reread)
    (hchildren : ∀ n ∈ children, ComesBackAs n) :
    List.Forall₂ (Stands told) (statementSlots.map (⟨·, .statements⟩))
      [[], [], [], [], [], Node.renumberAll Double.reread children, []] := by
  obtain ⟨hnothing, hwritten⟩ := get?_unsupported kind name children
  have hnone : ∀ slot ∈ ["declaration", "block", "handler", "cases", "consequent", "finalizer"],
      Stands told ⟨slot, .statements⟩ [] := fun slot hslot =>
    stands_reread_nothing ((h slot).trans (congrArg (Option.map Json.reread) (hnothing slot hslot)))
  simp only [List.forall_mem_cons] at hnone
  obtain ⟨h₁, h₂, h₃, h₄, h₅, h₇, -⟩ := hnone
  have hbody : Stands told ⟨"body", .statements⟩ (Node.renumberAll Double.reread children) := by
    have hget := (h "body").trans (congrArg (Option.map Json.reread) hwritten)
    cases children with
    | nil => exact stands_reread_nothing hget
    | cons first rest => exact stands_reread_statements hkinds hget hchildren
  exact .cons h₁ (.cons h₂ (.cons h₃ (.cons h₄ (.cons h₅ (.cons hbody (.cons h₇ .nil))))))

/-- A node that keeps its data comes back if its parts do. -/
theorem comesBackAs_of_parts (n : Node)
    (hkeeps : (∃ d, n = .literal (.number d)) ∨ keepsItsData n = true)
    (hparts : ∀ p ∈ n.parts, ComesBackAs p) : ComesBackAs n := by
  obtain ⟨told, htold, htype, hget⟩ := told_toEstree telling_reread n
  rw [ComesBackAs, htold]
  have hstring {key s : String} (h : Members.get? told key = some (Json.string s).reread) :
      Members.get? told key = some (.string s) := by rwa [telling_reread.string] at h
  have hpart {key : String} {p : Node} (h : Members.get? told key = some p.toEstree.reread)
      (hp : ComesBackAs p) : Stands told ⟨key, .required⟩ [p.renumber Double.reread] :=
    stands_required h hp
  cases n with
  | program body =>
    exact readsAs_of_slots htype rfl (.cons (stands_reread_sequence (hget "body") hparts) .nil) rfl
  | block body =>
    exact readsAs_of_slots htype rfl (.cons (stands_reread_sequence (hget "body") hparts) .nil) rfl
  | function id params body =>
    have hbody := hpart (hget "body") (hparts body (by simp [Node.parts]))
    have hparams := stands_reread_sequence (hget "params") fun p hp =>
      hparts p (by simp [Node.parts, hp])
    have hid := hpart (hget "id") (hparts id (by simp [Node.parts]))
    exact readsAs_of_slots htype rfl (.cons hid (.cons hparams (.cons hbody .nil))) rfl
  | «variables» keyword declarations =>
    have hdeclarations := stands_reread_sequence (hget "declarations") hparts
    refine readsAs_of_slots htype rfl (.cons hdeclarations .nil) ?_
    rw [Node.typeName, assemble, stringOr_eq (hstring (hget "kind"))]
    rfl
  | declarator id init =>
    have hid := hpart (hget "id") (hparts id (by simp [Node.parts]))
    have hinit := stands_reread_optional (hget "init") fun p hp => hparts p (by simp [Node.parts, hp])
    refine readsAs_of_slots htype rfl (.cons hid (.cons hinit .nil)) ?_
    cases init <;> rfl
  | expression e =>
    have he := hpart (hget "expression") (hparts e (by simp [Node.parts]))
    exact readsAs_of_slots htype rfl (.cons he .nil) rfl
  | assignment operator left right =>
    have hleft := hpart (hget "left") (hparts left (by simp [Node.parts]))
    have hright := hpart (hget "right") (hparts right (by simp [Node.parts]))
    refine readsAs_of_slots htype rfl (.cons hleft (.cons hright .nil)) ?_
    rw [Node.typeName, assemble, stringOr_eq (hstring (hget "operator"))]
    rfl
  | «while» test body =>
    have htest := hpart (hget "test") (hparts test (by simp [Node.parts]))
    have hbody := hpart (hget "body") (hparts body (by simp [Node.parts]))
    exact readsAs_of_slots htype rfl (.cons htest (.cons hbody .nil)) rfl
  | «if» test consequent alternate =>
    have htest := hpart (hget "test") (hparts test (by simp [Node.parts]))
    have hconsequent := hpart (hget "consequent") (hparts consequent (by simp [Node.parts]))
    have halternate := stands_reread_optional (hget "alternate") fun p hp =>
      hparts p (by simp [Node.parts, hp])
    refine readsAs_of_slots htype rfl (.cons htest (.cons hconsequent (.cons halternate .nil))) ?_
    cases alternate <;> rfl
  | «for» init test update body =>
    have hinit := stands_reread_optional (hget "init") fun p hp => hparts p (by simp [Node.parts, hp])
    have htest := stands_reread_optional (hget "test") fun p hp => hparts p (by simp [Node.parts, hp])
    have hupdate := stands_reread_optional (hget "update") fun p hp =>
      hparts p (by simp [Node.parts, hp])
    have hbody := hpart (hget "body") (hparts body (by simp [Node.parts]))
    refine readsAs_of_slots htype rfl (.cons hinit (.cons htest (.cons hupdate (.cons hbody .nil)))) ?_
    cases init <;> cases test <;> cases update <;> rfl
  | «return» argument =>
    have hargument := stands_reread_optional (hget "argument") hparts
    refine readsAs_of_slots htype rfl (.cons hargument .nil) ?_
    cases argument <;> rfl
  | member object property computed =>
    have hobject := hpart (hget "object") (hparts object (by simp [Node.parts]))
    have hproperty := hpart (hget "property") (hparts property (by simp [Node.parts]))
    have hcomputed : Members.get? told "computed" = some (.boolean computed) := by
      have hcomputed := hget "computed"
      rw [← telling_reread.boolean]
      exact hcomputed
    refine readsAs_of_slots htype rfl (.cons hobject (.cons hproperty .nil)) ?_
    rw [Node.typeName, assemble, hcomputed]
    rfl
  | binary operator left right =>
    have hoperator := hstring (hget "operator")
    have hleft := hpart (hget "left") (hparts left (by simp [Node.parts]))
    have hright := hpart (hget "right") (hparts right (by simp [Node.parts]))
    refine readsAs_of_slots htype rfl
      (.cons (stands_text hoperator) (.cons hleft (.cons hright .nil))) ?_
    rw [Node.typeName, assemble, stringOr_eq hoperator]
    rfl
  | logical operator left right =>
    have hoperator := hstring (hget "operator")
    have hleft := hpart (hget "left") (hparts left (by simp [Node.parts]))
    have hright := hpart (hget "right") (hparts right (by simp [Node.parts]))
    refine readsAs_of_slots htype rfl
      (.cons (stands_text hoperator) (.cons hleft (.cons hright .nil))) ?_
    rw [Node.typeName, assemble, stringOr_eq hoperator]
    rfl
  | unary operator argument =>
    have hoperator := hstring (hget "operator")
    have hargument := hpart (hget "argument") (hparts argument (by simp [Node.parts]))
    refine readsAs_of_slots htype rfl (.cons (stands_text hoperator) (.cons hargument .nil)) ?_
    rw [Node.typeName, assemble, stringOr_eq hoperator]
    rfl
  | literal value =>
    refine readsAs_of_slots htype rfl .nil ?_
    rw [Node.typeName, assemble, literal_reread (by simpa using hkeeps) hget]
    rfl
  | identifier name =>
    have hname := hstring (hget "name")
    refine readsAs_of_slots htype rfl (.cons (stands_text hname) .nil) ?_
    rw [Node.typeName, assemble, stringOr_eq hname]
    rfl
  | unsupported kind name children =>
    simp only [reduceCtorEq, exists_false, false_or, keepsItsData, Bool.and_eq_true, Bool.not_eq_true',
      List.contains_eq_mem, decide_eq_false_iff_not, List.all_eq_true] at hkeeps
    obtain ⟨hkind, hkinds⟩ := hkeeps
    refine readsAs_of_slots htype (slots_unsupported hkind)
      (stands_reread_unsupported hkinds hget hparts) ?_
    rw [Node.typeName, assemble_unsupported hkind, name_told telling_reread hget]
    simp [Node.renumber]

/-- A tree that keeps its data, its numbers apart, comes back with other literals in their place. -/
theorem comesBackAs {n : Node} (h : n.KeepsAllButNumbers) : ComesBackAs n := by
  induction n using Node.induction_parts with
  | h n ih =>
    exact comesBackAs_of_parts n (h 0 n (.here n)) fun p hp => ih p hp (h.part hp)

/-! ## Texts -/

variable {layout : Layout} {blanks : List Char}

/-- The text of a program that keeps its data, its numbers apart, with blanks behind it, is read as the
program with other literals in the place of its numbers if its value is nested less deep than the
reader of JSON follows, and is refused otherwise. The limit on the nesting of trees does not matter
unless it is smaller than that on the nesting of JSON. -/
theorem read_write (hl : layout.IsBlank) (hblanks : ∀ c ∈ blanks, isBlank c = true) {limit : Nat}
    (hlimit : depthLimit ≤ limit) {body : List Node}
    (hkeeps : (Node.program body).KeepsAllButNumbers) :
    (Node.program body).toEstree.depth < depthLimit ∧
        read limit ((Node.program body).toEstree.write layout 0 ++ blanks) =
          .ok ((Node.program body).renumber Double.reread) ∨
      depthLimit ≤ (Node.program body).toEstree.depth ∧
        read limit ((Node.program body).toEstree.write layout 0 ++ blanks) =
          .error (.nestingTooDeep depthLimit) := by
  rcases Json.parse_write hl (Node.isRead_toEstree _) hblanks with
    ⟨hdepth, hparse⟩ | ⟨hdepth, f, hparse, hf⟩
  · exact .inl ⟨hdepth, (comesBackAs hkeeps).read hparse rfl hlimit⟩
  · refine .inr ⟨hdepth, ?_⟩
    rw [read, readWith, hparse]
    simp only [hf, if_pos, Nat.min_eq_right hlimit]

end Estree

end ScriptOutline
