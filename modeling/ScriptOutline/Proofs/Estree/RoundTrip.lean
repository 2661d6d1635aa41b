import Mathlib.Data.List.TakeWhile
import Mathlib.Tactic.Common
import ScriptOutline.Estree.Writer
import ScriptOutline.Proofs.Estree.Slots
import ScriptOutline.Proofs.Json.Retelling
import ScriptOutline.Proofs.Number.Exact
import ScriptOutline.Proofs.Syntax.Comparison
import ScriptOutline.Proofs.Syntax.Parts
import ScriptOutline.Proofs.Yields

/-!
# Writing and reading trees

What the writer makes of a tree, the reader turns into the same tree again exactly if each node of the
tree keeps its data (`keepsItsData`) and none lies deeper than the limit.

The argument is one step and one induction. The step (`readsBack_succ_iff`) says that a node is read
back, with some levels left, if and only if its own data survives and its parts are read back with one
level less. The induction is on the levels left and not on the tree, so that necessity and sufficiency
are proved at once. Everything is stated for an arbitrary retelling of the written value, so that it
also covers values whose text was read back.
-/

namespace ScriptOutline

open Json (Members)

namespace Node

theorem estreeItems_eq_map (nodes : List Node) : estreeItems nodes = nodes.map toEstree := by
  induction nodes with
  | nil => rfl
  | cons n rest ih => rw [estreeItems, ih]; rfl

/-- The slots of a node have different names. -/
theorem keys_nodup (n : Node) :
    ((("type", .string n.typeName) :: n.estreeMembers).map Prod.fst).Nodup := by
  cases n with
  | literal value =>
    cases value with
    | regexp source =>
      simp only [estreeMembers, Literal.estreeMembers]
      split <;> simp
    | _ => simp [estreeMembers, Literal.estreeMembers]
  | unsupported kind name children => cases name <;> cases children <;> simp [estreeMembers]
  | _ => simp [estreeMembers]

theorem length_of_sameValues {as bs : List Node} (h : sameValues as bs = true) :
    as.length = bs.length := by
  induction as generalizing bs with
  | nil =>
    cases bs with
    | nil => rfl
    | cons b bs => simp [sameValues] at h
  | cons a as ih =>
    cases bs with
    | nil => simp [sameValues] at h
    | cons b bs =>
      simp only [sameValues, Bool.and_eq_true] at h
      rw [List.length_cons, List.length_cons, ih h.2]

theorem isProgram_of_sameValue {u : Node} {body : List Node}
    (h : u.sameValue (.program body) = true) : u.isProgram = true := by
  cases u <;> simp_all [sameValue, isProgram]

end Node

namespace Literal

theorem eq_slash_of_dropWhile {cs rest : List Char} {c : Char}
    (h : cs.dropWhile (· != '/') = c :: rest) : c = '/' := by
  have hhead := List.head?_dropWhile_not (· != '/') cs
  rw [h] at hhead
  simpa using hhead

/-- Pattern and flags between and after slashes are the source again. -/
theorem join_of_regexpParts? {source pattern flags : String}
    (h : regexpParts? source = some (pattern, flags)) :
    "/" ++ pattern ++ "/" ++ flags = source := by
  unfold regexpParts? at h
  split at h
  case h_2 => cases h
  case h_1 body hsource =>
    simp only at h
    split at h
    case h_2 => cases h
    case h_1 slash rest hdrop =>
      simp only [Option.some.injEq, Prod.mk.injEq] at h
      obtain ⟨rfl, rfl⟩ := h
      rw [eq_slash_of_dropWhile hdrop] at hdrop
      -- The body from its last slash on, read backwards.
      have hbody := List.takeWhile_append_dropWhile (p := (· != '/')) (l := body.reverse)
      rw [hdrop] at hbody
      have hrev := congrArg List.reverse hbody
      simp only [List.reverse_append, List.reverse_cons, List.reverse_reverse] at hrev
      rw [← String.toList_inj, hsource, ← (List.cons_inj_right '/').2 hrev]
      simp

/-- A source has a pattern and flags if it begins with a slash and has a second one. -/
theorem regexpParts?_isSome_iff (source : String) :
    (regexpParts? source).isSome = true ↔
      ∃ rest, source.toList = '/' :: rest ∧ '/' ∈ rest := by
  unfold regexpParts?
  split
  case h_2 hno =>
    simp only [Option.isSome_none, Bool.false_eq_true, false_iff]
    rintro ⟨rest, hrest, -⟩
    exact hno rest hrest
  case h_1 body hsource =>
    rw [hsource]
    simp only [List.cons.injEq, true_and, exists_eq_left']
    split
    case h_1 slash rest hdrop =>
      have hmem : slash ∈ body.reverse :=
        (List.dropWhile_suffix _).subset (hdrop ▸ List.mem_cons_self)
      simpa [eq_slash_of_dropWhile hdrop] using hmem
    case h_2 hdrop =>
      simp only [Option.isSome_none, Bool.false_eq_true, false_iff]
      intro hmem
      simpa using List.dropWhile_eq_nil_iff.1 hdrop '/' (List.mem_reverse.2 hmem)

end Literal

namespace Estree

/-- The data of a node that the writer and the reader keep: a finite number, a regular expression
with its two slashes, and, for an unsupported node, a kind that no supported node has and children
that are statements or hold statements. -/
def keepsItsData : Node → Bool
  | .literal (.number d) => d.isFinite
  | .literal (.regexp source) => (Literal.regexpParts? source).isSome
  | .unsupported kind _ children =>
    !Node.supportedNames.contains kind && children.all fun c => isStatementType c.typeName
  | _ => true

/-- Reading the retold form of a node gives that node again. -/
def ReadsBack (tell : Json → Json) (self : Json → Result Node) (n : Node) : Prop :=
  Yields (self (tell n.toEstree)) fun u => u.sameValue n = true

variable {tell : Json → Json} {told : Members} {slot : String}

/-- The members of a retold node are those that were written, each retold. -/
theorem told_toEstree (ht : Json.Telling tell) (n : Node) :
    ∃ told, tell n.toEstree = .object told ∧ Members.get? told "type" = some (.string n.typeName) ∧
      ∀ key, Members.get? told key =
        (Members.get? (("type", .string n.typeName) :: n.estreeMembers) key).map tell := by
  obtain ⟨told, htold, hget⟩ := ht.object n.keys_nodup
  have htype : Members.get? told "type" = some (tell (.string n.typeName)) := hget "type"
  rw [ht.string] at htype
  exact ⟨told, htold, htype, hget⟩

theorem isNull_tell_toEstree (ht : Json.Telling tell) (n : Node) :
    (tell n.toEstree).isNull = false := by
  obtain ⟨told, htold, -⟩ := told_toEstree ht n
  rw [htold]
  rfl

theorem holdsStatements_tell_toEstree (ht : Json.Telling tell) (n : Node) :
    holdsStatements (tell n.toEstree) = isStatementType n.typeName := by
  obtain ⟨told, htold, htype, -⟩ := told_toEstree ht n
  simp [htold, holdsStatements, Json.get?, htype, Json.asString?]

/-! ## Slots -/

theorem present?_of_get {v : Json} (h : Members.get? told slot = some v)
    (hv : v.isNull = false) : present? told slot = some v := by
  simp [present?, h, hv]

theorem present?_of_null (h : Members.get? told slot = some .null) : present? told slot = none := by
  rw [present?, h]
  rfl

theorem yields_required (self : Json → Result Node) (kind : String) (ht : Json.Telling tell)
    {n : Node} (h : Members.get? told slot = some (tell n.toEstree)) :
    Yields (required self told kind slot) (fun u => u.sameValue n = true) ↔
      ReadsBack tell self n := by
  rw [required, present?_of_get h (isNull_tell_toEstree ht n)]
  rfl

theorem yields_optional (self : Json → Result Node) (ht : Json.Telling tell) {o : Option Node}
    (h : Members.get? told slot = some (tell (Node.estreeOption o))) :
    Yields (optional self told slot) (fun v => Node.sameOption v o = true) ↔
      ∀ n ∈ o.toList, ReadsBack tell self n := by
  cases o with
  | none =>
    rw [Node.estreeOption, ht.null] at h
    simp [optional, present?_of_null h, Node.sameOption]
  | some n =>
    rw [optional, present?_of_get h (isNull_tell_toEstree ht n)]
    simp [Node.sameOption, ReadsBack, Node.estreeOption, Node.toEstree]

theorem yields_all (self : Json → Result Node) {nodes : List Node} :
    Yields (all self (nodes.map fun n => tell n.toEstree))
        (fun us => Node.sameValues us nodes = true) ↔
      ∀ n ∈ nodes, ReadsBack tell self n := by
  induction nodes with
  | nil => simp [all, Node.sameValues]
  | cons n rest ih => simp [all, Node.sameValues, ih, ReadsBack]

theorem oneOrMany_items (ht : Json.Telling tell) (nodes : List Node) :
    oneOrMany (some (tell (.array (Node.estreeItems nodes)))) =
      nodes.map fun n => tell n.toEstree := by
  rw [ht.array, Node.estreeItems_eq_map, oneOrMany, List.map_map]
  exact List.filter_eq_self.2 (by simp [isNull_tell_toEstree ht])

theorem yields_many (self : Json → Result Node) (kind : String) (ht : Json.Telling tell)
    {nodes : List Node}
    (h : Members.get? told slot = some (tell (.array (Node.estreeItems nodes)))) :
    Yields (many self told kind slot) (fun us => Node.sameValues us nodes = true) ↔
      ∀ n ∈ nodes, ReadsBack tell self n := by
  have hp := present?_of_get h (by rw [ht.array]; rfl)
  simp only [many, hp, oneOrMany_items ht]
  exact yields_all self

theorem present?_string (ht : Json.Telling tell) {s : String}
    (h : Members.get? told slot = some (tell (.string s))) :
    present? told slot = some (.string s) := by
  rw [ht.string] at h
  exact present?_of_get h rfl

theorem requiredString_string (kind : String) (ht : Json.Telling tell) {s : String}
    (h : Members.get? told slot = some (tell (.string s))) :
    requiredString told kind slot = .ok s := by
  simp [requiredString, present?_string ht h, Json.asString?]

theorem stringOr_string (default : String) (ht : Json.Telling tell) {s : String}
    (h : Members.get? told slot = some (tell (.string s))) :
    stringOr told slot default = s := by
  simp [stringOr, present?_string ht h, Json.asString?]

/-! ## Literals -/

/-- What is told of a literal that has no member besides its value. -/
theorem told_of_plain {value : Literal}
    (h : ∀ key, Members.get? told key =
      (Members.get? (("type", .string "Literal") :: value.estreeMembers) key).map tell)
    (hplain : value.estreeMembers = [("value", value.toJson)]) :
    Members.get? told "regex" = none ∧ Members.get? told "bigint" = none ∧
      Members.get? told "value" = some (tell value.toJson) := by
  rw [hplain] at h
  exact ⟨h "regex", h "bigint", h "value"⟩

theorem literal_number_iff (ht : Json.Retelling tell) (d : Double)
    (hregex : Members.get? told "regex" = none) (hbigint : Members.get? told "bigint" = none)
    (hvalue : Members.get? told "value" = some (tell (Literal.number d).toJson)) :
    (literal told).sameValue (.number d) = true ↔ d.isFinite = true := by
  simp only [literal, hregex, hbigint, hvalue, Literal.toJson]
  cases hint : d.toInt? with
  | some i =>
    obtain ⟨negative, size, hd, -⟩ := Double.toInt?_eq_some hint
    have hsame := Double.ofInt_sameValue_of_toInt? hint
    simp only [ht.integer, Literal.sameValue, Option.bind_none, hsame, true_iff]
    rw [hd, Double.isFinite]
  | none =>
    cases hfinite : d.isFinite with
    | true =>
      obtain ⟨e, he, hsame⟩ := ht.float hfinite
      simp [he, Literal.sameValue, hsame]
    | false => simp [ht.null, Literal.sameValue]

/-- Literals that are no numbers are told as they are. -/
theorem literal_other_iff (ht : Json.Telling tell) {value : Literal}
    (hvalue : ∀ d, value ≠ .number d)
    (h : ∀ key, Members.get? told key =
      (Members.get? (("type", .string "Literal") :: value.estreeMembers) key).map tell) :
    (literal told).sameValue value = true ↔ keepsItsData (.literal value) = true := by
  cases value with
  | number d => exact absurd rfl (hvalue d)
  | string s =>
    obtain ⟨hregex, hbigint, hvalue⟩ := told_of_plain h rfl
    rw [Literal.toJson, ht.string] at hvalue
    simp [literal, hregex, hbigint, hvalue, Literal.sameValue, keepsItsData]
  | boolean b =>
    obtain ⟨hregex, hbigint, hvalue⟩ := told_of_plain h rfl
    rw [Literal.toJson, ht.boolean] at hvalue
    simp [literal, hregex, hbigint, hvalue, Literal.sameValue, keepsItsData]
  | null =>
    obtain ⟨hregex, hbigint, hvalue⟩ := told_of_plain h rfl
    rw [Literal.toJson, ht.null] at hvalue
    simp [literal, hregex, hbigint, hvalue, Literal.sameValue, keepsItsData]
  | regexp source =>
    cases hparts : Literal.regexpParts? source with
    | none =>
      -- Without its two slashes the source is written, and read, as a string.
      obtain ⟨hregex, hbigint, hvalue⟩ :=
        told_of_plain h (by simp only [Literal.estreeMembers, hparts])
      rw [Literal.toJson, ht.string] at hvalue
      simp [literal, hregex, hbigint, hvalue, Literal.sameValue, keepsItsData, hparts]
    | some parts =>
      obtain ⟨pattern, flags⟩ := parts
      have hkeys : ([("pattern", .string pattern), ("flags", .string flags)].map
        (Prod.fst : String × Json → String)).Nodup := by simp
      obtain ⟨regex, htold, hget⟩ := ht.object hkeys
      have hpattern : Members.get? regex "pattern" = some (tell (.string pattern)) :=
        hget "pattern"
      have hflags : Members.get? regex "flags" = some (tell (.string flags)) := hget "flags"
      rw [ht.string] at hpattern hflags
      simp only [Literal.estreeMembers, hparts] at h
      have hregex : Members.get? told "regex" = some (.object regex) := by
        rw [← htold]
        exact h "regex"
      simp [literal, hregex, Json.get?, hpattern, hflags, Json.asString?, Literal.sameValue,
        keepsItsData, hparts, Literal.join_of_regexpParts? hparts]

theorem literal_sameValue_iff (ht : Json.Retelling tell) (value : Literal)
    (h : ∀ key, Members.get? told key =
      (Members.get? (("type", .string "Literal") :: value.estreeMembers) key).map tell) :
    (literal told).sameValue value = true ↔ keepsItsData (.literal value) = true := by
  cases value with
  | number d =>
    obtain ⟨hregex, hbigint, hvalue⟩ := told_of_plain h rfl
    exact literal_number_iff ht d hregex hbigint hvalue
  | _ => exact literal_other_iff ht.toTelling nofun h

/-! ## Unsupported nodes -/

/-- Under the name of a supported kind no unsupported node is read. -/
theorem not_yields_ofMembers (self : Json → Result Node) {kind kind' : String}
    {name : Option String} {children : List Node} (h : kind ∈ Node.supportedNames) :
    ¬ Yields (ofMembers self kind told)
      (fun u => u.sameValue (.unsupported kind' name children) = true) := by
  simp only [Node.supportedNames, List.mem_cons, List.not_mem_nil, or_false] at h
  rcases h with rfl | rfl | rfl | rfl | rfl | rfl | rfl | rfl | rfl | rfl | rfl | rfl | rfl | rfl |
    rfl | rfl | rfl <;>
  simp [ofMembers, Node.sameValue]

theorem length_of_all {self : Json → Result Node} {items : List Json} {nodes : List Node}
    (h : all self items = .ok nodes) : nodes.length = items.length := by
  induction items generalizing nodes with
  | nil => cases h; rfl
  | cons v rest ih =>
    have hy : Yields (all self (v :: rest)) fun us => us = nodes := ⟨nodes, h, rfl⟩
    simp only [all, yields_bind, yields_pure] at hy
    obtain ⟨a, -, b, hb, hab⟩ := hy
    rw [← hab, List.length_cons, List.length_cons, ih hb]

/-- A list that lost elements before it was read is not read back. -/
theorem yields_all_filter (self : Json → Result Node) {nodes : List Node} {p : Node → Bool} :
    Yields (all self ((nodes.filter p).map fun n => tell n.toEstree))
        (fun us => Node.sameValues us nodes = true) ↔
      (∀ n ∈ nodes, p n = true) ∧ ∀ n ∈ nodes, ReadsBack tell self n := by
  by_cases hp : ∀ n ∈ nodes, p n = true
  · rw [List.filter_eq_self.2 hp, yields_all]
    exact ⟨fun h => ⟨hp, h⟩, fun h => h.2⟩
  · simp only [hp, false_and, iff_false]
    rintro ⟨us, hall, hsame⟩
    have hlength := (length_of_all hall).symm.trans (Node.length_of_sameValues hsame)
    rw [List.length_map, List.length_filter_eq_length_iff] at hlength
    exact hp hlength

/-- Of the slots that may hold statements only `body` is written for an unsupported node. -/
theorem get?_unsupported (kind : String) (name : Option String) (children : List Node) :
    (∀ slot ∈ ["declaration", "block", "handler", "cases", "consequent", "finalizer"],
      Members.get? (("type", .string kind) ::
        (Node.unsupported kind name children).estreeMembers) slot = none) ∧
    Members.get? (("type", .string kind) ::
        (Node.unsupported kind name children).estreeMembers) "body" =
      if children = [] then none else some (.array (Node.estreeItems children)) := by
  constructor
  · intro slot hs
    simp only [List.mem_cons, List.not_mem_nil, or_false] at hs
    cases name <;> cases children <;> rcases hs with rfl | rfl | rfl | rfl | rfl | rfl <;> rfl
  · cases name <;> cases children <;> rfl

/-- Of the children of an unsupported node only those count that are told by their types. -/
theorem statements_told (ht : Json.Telling tell) {kind : String} {name : Option String}
    {children : List Node}
    (h : ∀ key, Members.get? told key =
      (Members.get? (("type", .string kind) ::
        (Node.unsupported kind name children).estreeMembers) key).map tell) :
    statements told = (children.filter fun c => isStatementType c.typeName).map
      fun n => tell n.toEstree := by
  obtain ⟨hnothing, hwritten⟩ := get?_unsupported kind name children
  have hslot : ∀ slot ∈ ["declaration", "block", "handler", "cases", "consequent", "finalizer"],
      oneOrMany (Members.get? told slot) = [] := by
    intro slot hs
    rw [h, hnothing slot hs]
    rfl
  have hbody : oneOrMany (Members.get? told "body") = children.map fun n => tell n.toEstree := by
    rw [h, hwritten]
    split
    · next hnil =>
      rw [hnil]
      rfl
    · rw [Option.map_some, oneOrMany_items ht]
  simp only [List.mem_cons, List.not_mem_nil, or_false, forall_eq_or_imp, forall_eq] at hslot
  simp [statements, statementSlots, hslot, hbody, List.filter_map, Function.comp_def,
    holdsStatements_tell_toEstree ht]

theorem name_told (ht : Json.Telling tell) {kind : String} {name : Option String}
    {children : List Node}
    (h : ∀ key, Members.get? told key =
      (Members.get? (("type", .string kind) ::
        (Node.unsupported kind name children).estreeMembers) key).map tell) :
    (Members.get? told "name").bind Json.asString? = name := by
  cases name with
  | none =>
    have hnone : Members.get? told "name" = none := by rw [h]; cases children <;> rfl
    rw [hnone]
    rfl
  | some s =>
    have hsome : Members.get? told "name" = some (tell (.string s)) := h "name"
    rw [hsome, ht.string]
    rfl

/-! ## Nodes -/

/-- A node is read back from its members if its own data survives and its parts are read back. -/
theorem yields_ofMembers (self : Json → Result Node) (ht : Json.Retelling tell) (n : Node)
    (h : ∀ key, Members.get? told key =
      (Members.get? (("type", .string n.typeName) :: n.estreeMembers) key).map tell) :
    Yields (ofMembers self n.typeName told) (fun u => u.sameValue n = true) ↔
      keepsItsData n = true ∧ ∀ p ∈ n.parts, ReadsBack tell self p := by
  have ht' := ht.toTelling
  cases n with
  | program body =>
    have hbody := yields_many self "Program" ht' (h "body")
    simp [Node.typeName, ofMembers, Node.sameValue, keepsItsData, Node.parts, hbody]
  | function id params body =>
    have hid := yields_required self "FunctionDeclaration" ht' (h "id")
    have hparams := yields_many self "FunctionDeclaration" ht' (h "params")
    have hbody := yields_required self "FunctionDeclaration" ht' (h "body")
    simp [Node.typeName, ofMembers, Node.sameValue, keepsItsData, Node.parts, hid, hparams, hbody,
      or_imp, forall_and, and_assoc]
  | block body =>
    have hbody := yields_many self "BlockStatement" ht' (h "body")
    simp [Node.typeName, ofMembers, Node.sameValue, keepsItsData, Node.parts, hbody]
  | «variables» keyword declarations =>
    have hkind := stringOr_string "var" ht' (h "kind")
    have hdeclarations := yields_many self "VariableDeclaration" ht' (h "declarations")
    simp [Node.typeName, ofMembers, Node.sameValue, keepsItsData, Node.parts, hkind, hdeclarations]
  | declarator id init =>
    have hid := yields_required self "VariableDeclarator" ht' (h "id")
    have hinit := yields_optional self ht' (h "init")
    simp [Node.typeName, ofMembers, Node.sameValue, keepsItsData, Node.parts, hid, hinit]
  | expression e =>
    have he := yields_required self "ExpressionStatement" ht' (h "expression")
    simp [Node.typeName, ofMembers, Node.sameValue, keepsItsData, Node.parts, he]
  | assignment operator left right =>
    have hoperator := stringOr_string "=" ht' (h "operator")
    have hleft := yields_required self "AssignmentExpression" ht' (h "left")
    have hright := yields_required self "AssignmentExpression" ht' (h "right")
    simp [Node.typeName, ofMembers, Node.sameValue, keepsItsData, Node.parts, hoperator, hleft,
      hright]
  | «while» test body =>
    have htest := yields_required self "WhileStatement" ht' (h "test")
    have hbody := yields_required self "WhileStatement" ht' (h "body")
    simp [Node.typeName, ofMembers, Node.sameValue, keepsItsData, Node.parts, htest, hbody]
  | «if» test consequent alternate =>
    have htest := yields_required self "IfStatement" ht' (h "test")
    have hconsequent := yields_required self "IfStatement" ht' (h "consequent")
    have halternate := yields_optional self ht' (h "alternate")
    simp [Node.typeName, ofMembers, Node.sameValue, keepsItsData, Node.parts, htest, hconsequent,
      halternate, and_assoc]
  | «for» init test update body =>
    have hinit := yields_optional self ht' (h "init")
    have htest := yields_optional self ht' (h "test")
    have hupdate := yields_optional self ht' (h "update")
    have hbody := yields_required self "ForStatement" ht' (h "body")
    simp [Node.typeName, ofMembers, Node.sameValue, keepsItsData, Node.parts, hinit, htest, hupdate,
      hbody, or_imp, forall_and, and_assoc]
  | «return» argument =>
    have hargument := yields_optional self ht' (h "argument")
    simp [Node.typeName, ofMembers, Node.sameValue, keepsItsData, Node.parts, hargument]
  | member object property computed =>
    have hobject := yields_required self "MemberExpression" ht' (h "object")
    have hproperty := yields_required self "MemberExpression" ht' (h "property")
    have hcomputed : Members.get? told "computed" = some (tell (.boolean computed)) := h "computed"
    rw [ht.boolean] at hcomputed
    simp [Node.typeName, ofMembers, Node.sameValue, keepsItsData, Node.parts, hobject, hproperty,
      hcomputed, Json.asBoolean?]
  | binary operator left right =>
    have hoperator := requiredString_string "BinaryExpression" ht' (h "operator")
    have hleft := yields_required self "BinaryExpression" ht' (h "left")
    have hright := yields_required self "BinaryExpression" ht' (h "right")
    simp [Node.typeName, ofMembers, Node.sameValue, keepsItsData, Node.parts, hoperator, hleft,
      hright]
  | logical operator left right =>
    have hoperator := requiredString_string "LogicalExpression" ht' (h "operator")
    have hleft := yields_required self "LogicalExpression" ht' (h "left")
    have hright := yields_required self "LogicalExpression" ht' (h "right")
    simp [Node.typeName, ofMembers, Node.sameValue, keepsItsData, Node.parts, hoperator, hleft,
      hright]
  | unary operator argument =>
    have hoperator := requiredString_string "UnaryExpression" ht' (h "operator")
    have hargument := yields_required self "UnaryExpression" ht' (h "argument")
    simp [Node.typeName, ofMembers, Node.sameValue, keepsItsData, Node.parts, hoperator, hargument]
  | literal value =>
    have hliteral := literal_sameValue_iff ht value h
    simp [Node.typeName, ofMembers, Node.sameValue, Node.parts, hliteral]
  | identifier name =>
    have hname := requiredString_string "Identifier" ht' (h "name")
    simp [Node.typeName, ofMembers, Node.sameValue, keepsItsData, Node.parts, hname]
  | unsupported kind name children =>
    rw [Node.typeName] at h ⊢
    by_cases hkind : kind ∈ Node.supportedNames
    · simp [not_yields_ofMembers self hkind, keepsItsData, hkind]
    · rw [ofMembers_unsupported self hkind, statements_told ht' h, name_told ht' h]
      simp [Node.sameValue, keepsItsData, Node.parts, hkind, yields_all_filter]

theorem readsBack_succ_iff (ht : Json.Retelling tell) (limit depth : Nat) (n : Node) :
    ReadsBack tell (node limit (depth + 1)) n ↔
      keepsItsData n = true ∧ ∀ p ∈ n.parts, ReadsBack tell (node limit depth) p := by
  obtain ⟨told, htold, htype, hget⟩ := told_toEstree ht.toTelling n
  rw [← yields_ofMembers (node limit depth) ht n hget, ReadsBack, htold, node, htype]
  rfl

/-- A tree is read back with some levels left if every node of it keeps its data and lies above the
last level. -/
theorem readsBack_iff (ht : Json.Retelling tell) (limit depth : Nat) (n : Node) :
    ReadsBack tell (node limit depth) n ↔
      ∀ k m, Node.Lies n k m → keepsItsData m = true ∧ k < depth := by
  induction depth generalizing n with
  | zero =>
    constructor
    · rintro ⟨u, hu, -⟩
      cases hu
    · intro h
      exact absurd (h 0 n (.here n)).2 (Nat.lt_irrefl 0)
  | succ depth ih =>
    rw [readsBack_succ_iff ht, Node.forall_lies_iff]
    simp [ih]

/-- A whole program is read back under the same condition as any node. -/
theorem yields_readValue (ht : Json.Retelling tell) (limit : Nat) (body : List Node) :
    Yields (readValue limit (tell (Node.program body).toEstree))
        (fun u => u.sameValue (.program body) = true) ↔
      ∀ k m, Node.Lies (.program body) k m → keepsItsData m = true ∧ k ≤ limit := by
  have hread := readsBack_iff ht limit (limit + 1) (.program body)
  simp only [Nat.lt_succ_iff] at hread
  rw [← hread, ReadsBack, readValue, yields_bind]
  constructor
  · rintro ⟨u, hu, hread⟩
    refine ⟨u, hu, ?_⟩
    split at hread
    · simpa using hread
    · exact absurd hread not_yields_error
  · rintro ⟨u, hu, hsame⟩
    refine ⟨u, hu, ?_⟩
    simp only [if_pos (Node.isProgram_of_sameValue hsame)]
    simpa using hsame

/-- Reading what was written for a program gives the program again, numbers compared as numbers, if
and only if all its numbers are finite, all its regular expressions have their two slashes, no
unsupported node has the kind of a supported one, all children of unsupported nodes are statements
or hold statements by their types, and no node lies deeper than the limit. -/
theorem readValue_toEstree_iff (limit : Nat) (body : List Node) :
    (∃ t, readValue limit (Node.program body).toEstree = .ok t ∧
        t.sameValue (.program body) = true) ↔
      (∀ k d, Node.Lies (.program body) k (.literal (.number d)) → d.isFinite = true) ∧
      (∀ k source, Node.Lies (.program body) k (.literal (.regexp source)) →
        ∃ rest, source.toList = '/' :: rest ∧ '/' ∈ rest) ∧
      (∀ k kind name children, Node.Lies (.program body) k (.unsupported kind name children) →
        kind ∉ Node.supportedNames) ∧
      (∀ k kind name children, Node.Lies (.program body) k (.unsupported kind name children) →
        ∀ child ∈ children, isStatementType child.typeName = true) ∧
      (∀ k n, Node.Lies (.program body) k n → k ≤ limit) := by
  refine (yields_readValue Json.retelling_id limit body).trans ⟨fun h => ?_, ?_⟩
  · refine ⟨fun k d hl => (h k _ hl).1, fun k source hl => ?_, fun k kind name children hl => ?_,
      fun k kind name children hl => ?_, fun k n hl => (h k n hl).2⟩
    · exact (Literal.regexpParts?_isSome_iff source).1 (h k _ hl).1
    · have hkeeps := (h k _ hl).1
      simp only [keepsItsData, Bool.and_eq_true, Bool.not_eq_true', List.contains_eq_mem,
        decide_eq_false_iff_not] at hkeeps
      exact hkeeps.1
    · have hkeeps := (h k _ hl).1
      simp only [keepsItsData, Bool.and_eq_true, List.all_eq_true] at hkeeps
      exact hkeeps.2
  · rintro ⟨hnumbers, hregexps, hkinds, hchildren, hdepth⟩ k n hl
    refine ⟨?_, hdepth k n hl⟩
    cases n with
    | literal value =>
      cases value with
      | number d => exact hnumbers k d hl
      | regexp source => exact (Literal.regexpParts?_isSome_iff source).2 (hregexps k source hl)
      | _ => rfl
    | unsupported kind name children =>
      have hkind := hkinds k kind name children hl
      simp only [keepsItsData, Bool.and_eq_true, Bool.not_eq_true', List.contains_eq_mem,
        decide_eq_false_iff_not, List.all_eq_true]
      exact ⟨hkind, hchildren k kind name children hl⟩
    | _ => rfl

end Estree

namespace Node

/-- Every node of the tree, except for numbers, keeps its data when the tree is written and read. -/
def KeepsAllButNumbers (n : Node) : Prop :=
  ∀ k m, Lies n k m → (∃ d, m = .literal (.number d)) ∨ Estree.keepsItsData m = true

theorem KeepsAllButNumbers.of_parts {n : Node} (hn : Estree.keepsItsData n = true)
    (hparts : ∀ p ∈ n.parts, p.KeepsAllButNumbers) : n.KeepsAllButNumbers :=
  forall_lies_iff.2 ⟨.inr hn, hparts⟩

theorem KeepsAllButNumbers.part {n p : Node} (h : n.KeepsAllButNumbers) (hp : p ∈ n.parts) :
    p.KeepsAllButNumbers :=
  (forall_lies_iff.1 h).2 p hp

theorem KeepsAllButNumbers.number (d : Double) : (literal (.number d)).KeepsAllButNumbers :=
  forall_lies_iff.2 ⟨.inl ⟨d, rfl⟩, fun _ hp => nomatch hp⟩

/-- A node without parts only has its own data to keep. -/
theorem KeepsAllButNumbers.of_no_parts {n : Node} (hn : Estree.keepsItsData n = true)
    (hparts : n.parts = []) : n.KeepsAllButNumbers :=
  .of_parts hn (by simp [hparts])

end Node

end ScriptOutline
