import Mathlib.Tactic.Common
import ScriptOutline.Proofs.Estree.Grammar

/-!
# Presentation

A tree can be presented in more than one way: a sequence of one node as an array or as the node
itself, with `null` among its items, and with members that nothing asks for. `tidy` brings every
position that the reader can come to into one form, and the reader finds the same tree in it, or the
same error.

It rests on three facts about one node, each for all kinds at once: its slots are filled alike
(`isFilled_tidyMembers`), the nodes in them are the tidied ones (`nodes_tidyMembers`), and what else
a kind reads is left as it is (`assemble_congr`). The levels of nesting are left to one induction.
-/

namespace ScriptOutline

namespace Estree

open Json (Members)

deriving instance DecidableEq for Use

/-- The members that a kind reads as they are, besides its slots. -/
def details (kind : String) : List String :=
  match kind with
  | "VariableDeclaration" => ["type", "kind"]
  | "AssignmentExpression" => ["type", "operator"]
  | "MemberExpression" => ["type", "computed"]
  | "Literal" => ["type", "regex", "bigint", "value", "raw"]
  | kind => if kind ∈ Node.supportedNames then ["type"] else ["type", "name"]

/-- How a kind uses a member, if it is one of its slots. -/
def use? (kind name : String) : Option Use :=
  ((slots kind).find? (·.name == name)).map Slot.use

/-- Whether an element of a slot is read as a node. -/
def Use.reads (use : Use) (v : Json) : Bool :=
  match use with
  | .statements => holdsStatements v
  | .required | .optional | .sequence => true
  | .text => false

mutual

/-- A node in tidy form: without the members that its kind does not read, with its slots in tidy
form. -/
def tidy (v : Json) : Json :=
  match v with
  | .object members =>
    match (Members.get? members "type").bind Json.asString? with
    | some kind => .object (tidyMembers kind members)
    | none => .object members
  | v => v
termination_by (sizeOf v, 0)

/-- The members of a node of a kind in tidy form. -/
def tidyMembers (kind : String) (members : Members) : Members :=
  match members with
  | [] => []
  | (name, v) :: rest =>
    match use? kind name with
    | some use => (name, tidySlot use v) :: tidyMembers kind rest
    | none =>
      if name ∈ details kind then (name, v) :: tidyMembers kind rest else tidyMembers kind rest
termination_by (sizeOf members, 0)

/-- What is in a slot, in tidy form. -/
def tidySlot (use : Use) (v : Json) : Json :=
  match use with
  | .required | .optional | .text => tidyElement use v
  | .sequence | .statements => tidySequence use v
termination_by (sizeOf v, 3)

/-- A sequence in tidy form: an array of its elements. -/
def tidySequence (use : Use) (v : Json) : Json :=
  match v with
  | .null => .null
  | .array items => .array (tidyItems use items)
  | v => .array [tidyElement use v]
termination_by (sizeOf v, 2)

/-- The items of an array that are not `null`, in tidy form. -/
def tidyItems (use : Use) (items : List Json) : List Json :=
  match items with
  | [] => []
  | v :: rest => if v.isNull then tidyItems use rest else tidyElement use v :: tidyItems use rest
termination_by (sizeOf items, 0)

/-- An element of a slot, in tidy form if it is read as a node. -/
def tidyElement (use : Use) (v : Json) : Json := if use.reads v then tidy v else v
termination_by (sizeOf v, 1)

end

variable {kind name : String} {use : Use} {slot : Slot} {members others : Members} {v : Json}

/-! ## Kinds -/

theorem details_unsupported (h : kind ∉ Node.supportedNames) : details kind = ["type", "name"] := by
  unfold details
  have hother := h
  simp only [Node.supportedNames, List.mem_cons, not_or] at hother
  split <;> simp_all

/-- Slots are told by their names, no detail is a slot, and the type is always a detail. -/
theorem slots_and_details (kind : String) :
    (∀ slot ∈ slots kind, use? kind slot.name = some slot.use) ∧
      (∀ name ∈ details kind, use? kind name = none) ∧ "type" ∈ details kind := by
  by_cases hkind : kind ∈ Node.supportedNames
  · revert kind
    decide
  · -- All kinds that are not supported have the same slots.
    unfold use?
    rw [slots_unsupported hkind, details_unsupported hkind]
    decide

theorem use?_slot (h : slot ∈ slots kind) : use? kind slot.name = some slot.use :=
  (slots_and_details kind).1 slot h

theorem use?_details (h : name ∈ details kind) : use? kind name = none :=
  (slots_and_details kind).2.1 name h

theorem type_mem_details (kind : String) : "type" ∈ details kind := (slots_and_details kind).2.2

/-- A string that must not be `null` is one that is there. -/
theorem stringOr_eq_getD (members : Members) (name default : String) :
    stringOr members name default =
      ((Members.get? members name).bind Json.asString?).getD default := by
  unfold stringOr present?
  cases Members.get? members name with
  | none => rfl
  | some v => cases v <;> rfl

/-- What is put together from the nodes in the slots depends on no more of the members than the strings
and the booleans that the kind asks for, and the value of a literal. -/
theorem assemble_told
    (htext : ∀ slot ∈ slots kind, slot.use = .text →
      (Members.get? others slot.name).bind Json.asString? =
        (Members.get? members slot.name).bind Json.asString?)
    (hstring : ∀ name ∈ details kind, (Members.get? others name).bind Json.asString? =
      (Members.get? members name).bind Json.asString?)
    (hboolean : ∀ name ∈ details kind, (Members.get? others name).bind Json.asBoolean? =
      (Members.get? members name).bind Json.asBoolean?)
    (hliteral : kind = "Literal" → literal others = literal members) (nodes : List (List Node)) :
    assemble kind others nodes = assemble kind members nodes := by
  by_cases hkind : kind ∈ Node.supportedNames
  · simp only [Node.supportedNames, List.mem_cons, List.not_mem_nil, or_false] at hkind
    rcases hkind with rfl | rfl | rfl | rfl | rfl | rfl | rfl | rfl | rfl | rfl | rfl | rfl | rfl |
      rfl | rfl | rfl | rfl <;>
    simp_all [slots, details, assemble, stringOr_eq_getD]
  · rw [details_unsupported hkind] at hstring
    rw [assemble_unsupported hkind, assemble_unsupported hkind, hstring "name" (by decide)]

/-- What is put together from the nodes in the slots depends on no other members than the strings
among the slots and the details of the kind. -/
theorem assemble_congr
    (htext : ∀ slot ∈ slots kind, slot.use = .text →
      Members.get? others slot.name = Members.get? members slot.name)
    (hdetails : ∀ name ∈ details kind, Members.get? others name = Members.get? members name)
    (nodes : List (List Node)) : assemble kind others nodes = assemble kind members nodes := by
  refine assemble_told (fun slot hslot huse => ?_) (fun name hname => ?_) (fun name hname => ?_)
    (fun hkind => ?_) nodes
  · rw [htext slot hslot huse]
  · rw [hdetails name hname]
  · rw [hdetails name hname]
  · subst hkind
    simp_all [details, literal]

/-! ## Members in tidy form -/

/-- A member of another name makes no difference. -/
theorem get?_tidyMembers_cons {other : String} (h : other ≠ name) (v : Json) (members : Members) :
    Members.get? (tidyMembers kind ((other, v) :: members)) name =
      Members.get? (tidyMembers kind members) name := by
  rw [tidyMembers]
  cases use? kind other with
  | some use => exact if_neg h
  | none =>
    by_cases hdetail : other ∈ details kind
    · simp only [if_pos hdetail]
      exact if_neg h
    · simp only [if_neg hdetail]

theorem get?_tidyMembers_slot (h : use? kind name = some use) :
    Members.get? (tidyMembers kind members) name =
      (Members.get? members name).map (tidySlot use) := by
  induction members with
  | nil =>
    rw [tidyMembers]
    rfl
  | cons member members ih =>
    obtain ⟨other, v⟩ := member
    by_cases hname : other = name
    · subst hname
      rw [tidyMembers, h]
      simp [Members.get?]
    · rw [get?_tidyMembers_cons hname, ih, Members.get?, if_neg hname]

theorem get?_tidyMembers_detail (h : name ∈ details kind) :
    Members.get? (tidyMembers kind members) name = Members.get? members name := by
  induction members with
  | nil => rw [tidyMembers]
  | cons member members ih =>
    obtain ⟨other, v⟩ := member
    by_cases hname : other = name
    · subst hname
      rw [tidyMembers, use?_details h]
      simp [Members.get?, h]
    · rw [get?_tidyMembers_cons hname, ih, Members.get?, if_neg hname]

theorem get?_tidyMembers (members : Members) (h : slot ∈ slots kind) :
    Members.get? (tidyMembers kind members) slot.name =
      (Members.get? members slot.name).map (tidySlot slot.use) :=
  get?_tidyMembers_slot (use?_slot h)

theorem tidy_object (h : typeOf? (.object members) = some kind) :
    tidy (.object members) = .object (tidyMembers kind members) := by
  rw [tidy, typeOf_iff.2 (typeOf_iff.1 h)]

/-- A node keeps its type. -/
theorem typeOf?_tidy (v : Json) : typeOf? (tidy v) = typeOf? v := by
  cases v with
  | object members =>
    rw [tidy]
    cases htype : (Members.get? members "type").bind Json.asString? with
    | none => rfl
    | some kind =>
      rw [typeOf?, typeOf?, Json.get?, Json.get?, get?_tidyMembers_detail (type_mem_details kind)]
  | null | boolean | number | string | array => rw [tidy]; simp

theorem holdsStatements_tidy (v : Json) : holdsStatements (tidy v) = holdsStatements v := by
  have htype := typeOf?_tidy v
  unfold typeOf? at htype
  rw [holdsStatements, holdsStatements, htype]

theorem isNull_tidy (v : Json) : (tidy v).isNull = v.isNull := by
  cases v with
  | object members =>
    rw [tidy]
    split <;> rfl
  | null | boolean | number | string | array => rw [tidy]; simp

theorem tidyElement_of_reads (h : use.reads v = true) : tidyElement use v = tidy v := by
  rw [tidyElement, if_pos h]

theorem tidySlot_text (v : Json) : tidySlot .text v = v := by
  rw [tidySlot, tidyElement]
  rfl

theorem isNull_tidyElement (use : Use) (v : Json) : (tidyElement use v).isNull = v.isNull := by
  rw [tidyElement]
  split
  · exact isNull_tidy v
  · rfl

theorem isNull_tidySequence (use : Use) (v : Json) :
    (tidySequence use v).isNull = v.isNull := by
  cases v <;> simp [tidySequence, Json.isNull]

theorem isNull_tidySlot (use : Use) (v : Json) : (tidySlot use v).isNull = v.isNull := by
  cases use with
  | required | optional | text => rw [tidySlot, isNull_tidyElement]
  | sequence | statements => rw [tidySlot, isNull_tidySequence]

theorem reads_tidyElement (use : Use) (v : Json) : use.reads (tidyElement use v) = use.reads v := by
  rw [tidyElement]
  split
  · cases use with
    | statements => exact holdsStatements_tidy v
    | required | optional | sequence | text => rfl
  · rfl

theorem tidyItems_eq (use : Use) (items : List Json) :
    tidyItems use items = (items.filter (!·.isNull)).map (tidyElement use) := by
  induction items with
  | nil => rw [tidyItems]; rfl
  | cons v items ih =>
    rw [tidyItems, ih]
    cases hnull : v.isNull <;> simp [hnull]

/-! ## Slots in tidy form -/

theorem present?_tidyMembers (members : Members) (h : slot ∈ slots kind) :
    present? (tidyMembers kind members) slot.name =
      (present? members slot.name).map (tidySlot slot.use) := by
  rw [present?, present?, get?_tidyMembers members h]
  cases Members.get? members slot.name with
  | none => rfl
  | some v => cases hnull : v.isNull <;> simp [Option.filter, hnull, isNull_tidySlot]

/-- The elements of a tidy sequence are the tidy elements of the sequence. -/
theorem oneOrMany_tidySequence (use : Use) (v : Option Json) :
    oneOrMany (v.map (tidySequence use)) = (oneOrMany v).map (tidyElement use) := by
  cases v with
  | none => rfl
  | some v =>
    have hitems (items : List Json) : (tidyItems use items).filter (!·.isNull) =
        (items.filter (!·.isNull)).map (tidyElement use) := by
      simp [tidyItems_eq, List.filter_map, Function.comp_def, isNull_tidyElement]
    have hlone (w : Json) (h : w.isNull = false) :
        [tidyElement use w].filter (!·.isNull) = [tidyElement use w] := by
      simp [isNull_tidyElement, h]
    rw [Option.map_some]
    cases v with
    | null =>
      rw [tidySequence]
      rfl
    | array items =>
      rw [tidySequence]
      exact hitems items
    | boolean | number | string | object =>
      rw [tidySequence] <;> first | exact hlone _ rfl | simp

/-- The slots of a kind are filled in tidy members if they are in the members. -/
theorem isFilled_tidyMembers (h : slot ∈ slots kind) :
    slot.isFilled (tidyMembers kind members) = slot.isFilled members := by
  have hpresent := present?_tidyMembers members h
  obtain ⟨name, use⟩ := slot
  cases use with
  | required | sequence => simp [Slot.isFilled, hpresent]
  | text =>
    have hsame : tidySlot .text = id := funext tidySlot_text
    simp [Slot.isFilled, hpresent, hsame]
  | optional | statements => rfl

/-- The nodes in a slot of tidy members are the tidy nodes in the slot. -/
theorem nodes_tidyMembers (h : slot ∈ slots kind) :
    slot.nodes (tidyMembers kind members) = (slot.nodes members).map tidy := by
  have hget := get?_tidyMembers members h
  have hpresent := present?_tidyMembers members h
  obtain ⟨name, use⟩ := slot
  cases use with
  | required | optional =>
    rw [Slot.nodes, Slot.nodes, hpresent]
    cases present? members name with
    | none => rfl
    | some v =>
      rw [Option.map_some, tidySlot, tidyElement_of_reads rfl]
      rfl
  | sequence =>
    have hslot : tidySlot .sequence = tidySequence .sequence := by
      funext v
      rw [tidySlot]
    have helement : tidyElement .sequence = tidy := funext fun v => tidyElement_of_reads rfl
    rw [Slot.nodes, Slot.nodes, hpresent, hslot, oneOrMany_tidySequence, helement]
  | text => rfl
  | statements =>
    have hslot : tidySlot .statements = tidySequence .statements := by
      funext v
      rw [tidySlot]
    have hholds : holdsStatements ∘ tidyElement .statements = holdsStatements :=
      funext fun v => reads_tidyElement .statements v
    rw [Slot.nodes, Slot.nodes, hget, hslot, oneOrMany_tidySequence, List.filter_map, hholds]
    refine List.map_congr_left fun v hv => ?_
    exact tidyElement_of_reads (List.mem_filter.1 hv).2

/-! ## Trees in tidy form -/

/-- Reading tidy members is reading the members with tidy nodes in their slots. -/
theorem ofMembers_tidyMembers (self : Json → Result Node) :
    ofMembers self kind (tidyMembers kind members) = ofMembers (self ∘ tidy) kind members := by
  have htext : ∀ slot ∈ slots kind, slot.use = .text →
      Members.get? (tidyMembers kind members) slot.name = Members.get? members slot.name := by
    intro slot hslot huse
    rw [get?_tidyMembers members hslot, huse, funext tidySlot_text]
    exact Option.map_id'
  have hread : ∀ slot ∈ slots kind, Slot.read self kind (tidyMembers kind members) slot =
      Slot.read (self ∘ tidy) kind members slot := by
    intro slot hslot
    rw [Slot.read, Slot.read, isFilled_tidyMembers hslot, nodes_tidyMembers hslot, all_eq_mapM,
      all_eq_mapM, List.mapM_map]
  rw [ofMembers_eq_assemble, ofMembers_eq_assemble, readSlots, readSlots, mapM_congr hread,
    funext (assemble_congr htext fun _ hname => get?_tidyMembers_detail hname)]

/-- A node in tidy form is read as the node is. -/
theorem node_tidy (limit depth : Nat) (v : Json) :
    node limit depth (tidy v) = node limit depth v := by
  induction depth generalizing v with
  | zero => rfl
  | succ depth ih =>
    cases v with
    | object members =>
      cases htype : (Members.get? members "type").bind Json.asString? with
      | none => rw [tidy, htype]
      | some kind =>
        have htidy : Members.get? (tidyMembers kind members) "type" = some (.string kind) := by
          rw [get?_tidyMembers_detail (type_mem_details kind), typeOf_iff.1 htype]
        have hself : node limit depth ∘ tidy = node limit depth := funext ih
        rw [tidy_object htype, node_object htidy, node_object (typeOf_iff.1 htype),
          ofMembers_tidyMembers, hself]
    | null | boolean | number | string | array => rw [tidy]; simp

/-- The node has only members that its kind reads, and its sequences are arrays without `null`, if
they are there. -/
def IsTidy (v : Json) : Prop :=
  ∀ members kind, v = .object members → typeOf? v = some kind →
    ∀ member ∈ members, member.1 ∈ details kind ∨ ∃ use, use? kind member.1 = some use ∧
      (use = .sequence ∨ use = .statements → member.2.isNull = true ∨
        ∃ items, member.2 = .array items ∧ ∀ item ∈ items, item.isNull = false)

theorem tidySequence_cases (use : Use) (v : Json) :
    (tidySequence use v).isNull = true ∨
      ∃ items, tidySequence use v = .array items ∧ ∀ item ∈ items, item.isNull = false := by
  cases hnull : v.isNull with
  | true => exact .inl (by rw [isNull_tidySequence, hnull])
  | false =>
    cases v with
    | null => cases hnull
    | array items =>
      refine .inr ⟨tidyItems use items, by rw [tidySequence], fun item hitem => ?_⟩
      rw [tidyItems_eq] at hitem
      obtain ⟨w, hw, rfl⟩ := List.mem_map.1 hitem
      rw [isNull_tidyElement]
      simpa using (List.mem_filter.1 hw).2
    | boolean | number | string | object =>
      refine .inr ⟨_, by rw [tidySequence] <;> simp, fun item hitem => ?_⟩
      rw [List.mem_singleton.1 hitem, isNull_tidyElement, hnull]

/-- A tidy member is one that is read as it is, or what is in a slot in tidy form. -/
theorem of_mem_tidyMembers {member : String × Json} (h : member ∈ tidyMembers kind members) :
    member.1 ∈ details kind ∨
      ∃ use v, use? kind member.1 = some use ∧ member.2 = tidySlot use v := by
  induction members with
  | nil =>
    rw [tidyMembers] at h
    cases h
  | cons first members ih =>
    obtain ⟨name, v⟩ := first
    rw [tidyMembers] at h
    cases huse : use? kind name with
    | some use =>
      rw [huse] at h
      rcases List.mem_cons.1 h with rfl | hrest
      · exact .inr ⟨use, v, huse, rfl⟩
      · exact ih hrest
    | none =>
      rw [huse] at h
      by_cases hdetail : name ∈ details kind
      · simp only [if_pos hdetail] at h
        rcases List.mem_cons.1 h with rfl | hrest
        · exact .inl hdetail
        · exact ih hrest
      · simp only [if_neg hdetail] at h
        exact ih h

theorem isTidy_tidy (v : Json) : IsTidy (tidy v) := by
  intro members kind hobject htype member hmember
  rw [typeOf?_tidy] at htype
  cases v with
  | object others =>
    rw [tidy_object htype] at hobject
    cases hobject
    rcases of_mem_tidyMembers hmember with hdetail | ⟨use, w, huse, hslot⟩
    · exact .inl hdetail
    · refine .inr ⟨use, huse, fun hsequence => ?_⟩
      have hmember : member.2 = tidySequence use w := by
        rw [hslot]
        rcases hsequence with rfl | rfl <;> rw [tidySlot]
      rw [hmember]
      exact tidySequence_cases use w
  | null | boolean | number | string | array => cases htype

/-- What the reader comes to in a tidy value is tidy. -/
theorem exists_of_readAt_tidy {v w : Json} {k : Nat} (h : ReadAt (tidy v) k w) :
    ∃ u, w = tidy u := by
  generalize hroot : tidy v = root at h
  induction h generalizing v with
  | here => exact ⟨v, hroot.symm⟩
  | @inside members kind slot part w k htype hslot hpart h ih =>
    have htype' : typeOf? v = some kind := by
      rw [← typeOf?_tidy, hroot, typeOf?, Json.get?, htype]
      rfl
    cases v with
    | object others =>
      rw [tidy_object htype'] at hroot
      cases hroot
      rw [nodes_tidyMembers hslot] at hpart
      obtain ⟨u, -, rfl⟩ := List.mem_map.1 hpart
      exact ih rfl
    | null | boolean | number | string | array => cases htype'

/-- With every limit, a value in tidy form is read as the same tree as the value, or refused with
the same error; and every position that the reader comes to in it is tidy. -/
theorem readValue_tidy (limit : Nat) (v : Json) :
    readValue limit (tidy v) = readValue limit v ∧ ∀ k w, ReadAt (tidy v) k w → IsTidy w := by
  refine ⟨by rw [readValue, readValue, node_tidy], fun k w h => ?_⟩
  obtain ⟨u, rfl⟩ := exists_of_readAt_tidy h
  exact isTidy_tidy u

end Estree

end ScriptOutline
