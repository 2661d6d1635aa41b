import Mathlib.Data.List.Forall2
import Mathlib.Data.Option.Basic
import Mathlib.Tactic.Common
import ScriptOutline.Proofs.Estree.Presentation
import ScriptOutline.Proofs.Json.Rereading

/-!
# Null members

A member that is `null` says as much as a member that is not there. So a tree may lose any of them, in
any of its nodes (`LosesNulls`), and is read as before. An array in the place of a single node is none:
it stays as it is, for the error that it leads to quotes it.

One member is told from an absent one when it is `null`, the mark of a literal that is a regular
expression (`marksRegexp`). Whatever else a node reads, it reads alike from both values: a string or a
boolean (`LosesNulls.bind_asString?`), the nodes in a slot (`LosesNulls.nodes`), and, with its mark,
the value of a literal. The levels of nesting are left to one induction.
-/

namespace ScriptOutline

namespace Estree

open Json (Members)

/-- What may stand somewhere: a node, one or more nodes, or a value that is no node. -/
inductive Place where
  | node
  | nodes
  | other
  deriving DecidableEq

theorem Place.node_ne_nodes : Place.node ≠ .nodes := by decide

/-- What may stand in a member of a value that stands in a place. -/
def Place.below (place : Place) (v : Json) (name : String) : Place :=
  match place, (typeOf? v).bind (use? · name) with
  | .node, some .required | .node, some .optional => .node
  | .node, some .sequence | .node, some .statements => .nodes
  | _, _ => .other

/-- `LosesNulls told place v w` says that `w` is what is left of a value `v` in some place when members
that are `null` are taken away from the objects in it, though none that nodes tell from absent ones. -/
inductive LosesNulls (told : Json → String → Prop) : Place → Json → Json → Prop where
  /-- Anything may stay as it is. -/
  | same (place : Place) (v : Json) : LosesNulls told place v v
  /-- An object gets no new members. Those it loses are `null`, and those it keeps may lose some of
  theirs. -/
  | object {place : Place} {members others : Members} (hplace : place ≠ .nodes)
      (hnew : ∀ name, Members.get? members name = none → Members.get? others name = none)
      (hlost : ∀ name v, Members.get? members name = some v → Members.get? others name = none →
        v = .null ∧ (place = .node → ¬ told (.object members) name))
      (hkept : ∀ name v w, Members.get? members name = some v → Members.get? others name = some w →
        LosesNulls told (place.below (.object members) name) v w) :
      LosesNulls told place (.object members) (.object others)
  /-- A sequence may be a single node. -/
  | lone {v w : Json} (h : LosesNulls told .node v w) : LosesNulls told .nodes v w
  /-- A sequence may be an array of nodes. -/
  | items {vs ws : List Json} (h : List.Forall₂ (LosesNulls told .node) vs ws) :
      LosesNulls told .nodes (.array vs) (.array ws)
  /-- Any array where no node stands. -/
  | array {vs ws : List Json} (h : List.Forall₂ (LosesNulls told .other) vs ws) :
      LosesNulls told .other (.array vs) (.array ws)

/-- The member of a literal that says that it is a regular expression. -/
def marksRegexp (v : Json) (name : String) : Prop := typeOf? v = some "Literal" ∧ name = "regex"

variable {told : Json → String → Prop} {place : Place} {v w : Json} {members others : Members}
  {name kind : String} {slot : Slot}

/-! ## Slots and places -/

theorem oneOrMany_present? (members : Members) (name : String) :
    oneOrMany (present? members name) =
      oneOrMany (Members.get? members name) := by
  unfold present?
  cases Members.get? members name with
  | none => rfl
  | some v => cases v <;> rfl

theorem Place.below_slot (htype : typeOf? (.object members) = some kind) (hslot : slot ∈ slots kind) :
    Place.below .node (.object members) slot.name =
      match slot.use with
      | .required | .optional => .node
      | .sequence | .statements => .nodes
      | .text => .other := by
  unfold Place.below
  rw [htype, Option.bind_some, use?_slot hslot]
  cases slot.use <;> rfl

namespace LosesNulls

/-! ## What is left of a value -/

/-- What is left of an object has each of its members still, but for some that are `null`. -/
theorem member (h : LosesNulls told place (.object members) (.object others))
    (hplace : place ≠ .nodes) (name : String) :
    (Members.get? members name = some .null ∧ Members.get? others name = none ∧
        (place = .node → ¬ told (.object members) name)) ∨
      Option.Rel (LosesNulls told (place.below (.object members) name))
        (Members.get? members name) (Members.get? others name) := by
  cases h with
  | same =>
    refine .inr ?_
    cases Members.get? members name with
    | none => exact .none
    | some v => exact .some (.same _ v)
  | object _ hnew hlost hkept =>
    cases hv : Members.get? members name with
    | none =>
      rw [hnew name hv]
      exact .inr .none
    | some v =>
      cases hw : Members.get? others name with
      | none =>
        obtain ⟨rfl, htold⟩ := hlost name v hv hw
        exact .inl ⟨rfl, rfl, htold⟩
      | some w => exact .inr (.some (hkept name v w hv hw))
  | lone => exact absurd rfl hplace

/-- Only objects and arrays lose anything. -/
theorem cases_of (h : LosesNulls told place v w) :
    v = w ∨ (∃ vs ws, v = .array vs ∧ w = .array ws) ∨
      ∃ members others, v = .object members ∧ w = .object others ∧
        ∃ place, place ≠ .nodes ∧ LosesNulls told place (.object members) (.object others) := by
  have hobject {place : Place} {members others : Members} (hplace : place ≠ .nodes)
      (h : LosesNulls told place (.object members) (.object others)) :
      ∃ ms ms', Json.object members = .object ms ∧ Json.object others = .object ms' ∧
        ∃ place, place ≠ .nodes ∧ LosesNulls told place (.object ms) (.object ms') :=
    ⟨members, others, rfl, rfl, place, hplace, h⟩
  cases h with
  | same => exact .inl rfl
  | object hplace hnew hlost hkept =>
    exact .inr (.inr (hobject hplace (.object hplace hnew hlost hkept)))
  | lone h =>
    cases h with
    | same => exact .inl rfl
    | object hplace hnew hlost hkept =>
      exact .inr (.inr (hobject hplace (.object hplace hnew hlost hkept)))
  | items | array => exact .inr (.inl ⟨_, _, rfl, rfl⟩)

theorem isNull_eq (h : LosesNulls told place v w) : w.isNull = v.isNull := by
  rcases h.cases_of with rfl | ⟨vs, ws, rfl, rfl⟩ | ⟨members, others, rfl, rfl, -⟩ <;> rfl

theorem asString?_eq (h : LosesNulls told place v w) : w.asString? = v.asString? := by
  rcases h.cases_of with rfl | ⟨vs, ws, rfl, rfl⟩ | ⟨members, others, rfl, rfl, -⟩ <;> rfl

theorem asBoolean?_eq (h : LosesNulls told place v w) : w.asBoolean? = v.asBoolean? := by
  rcases h.cases_of with rfl | ⟨vs, ws, rfl, rfl⟩ | ⟨members, others, rfl, rfl, -⟩ <;> rfl

/-- A member that `null` stands for is found alike if `null` is found alike. -/
theorem bind_eq {α : Type} {f : Json → Option α} (hnull : f .null = none)
    (hf : ∀ place v w, LosesNulls told place v w → f w = f v)
    (h : LosesNulls told place (.object members) (.object others)) (hplace : place ≠ .nodes)
    (name : String) : (Members.get? others name).bind f = (Members.get? members name).bind f := by
  rcases h.member hplace name with ⟨hv, hw, -⟩ | hkept
  · rw [hv, hw]
    exact hnull.symm
  · generalize Members.get? members name = o, Members.get? others name = o' at hkept
    cases hkept with
    | none => rfl
    | some h => exact hf _ _ _ h

theorem bind_asString? (h : LosesNulls told place (.object members) (.object others))
    (hplace : place ≠ .nodes) (name : String) :
    (Members.get? others name).bind Json.asString? =
      (Members.get? members name).bind Json.asString? :=
  bind_eq rfl (fun _ _ _ => asString?_eq) h hplace name

/-- A string in a value is left in it. -/
theorem get?_asString? (h : LosesNulls told place v w) (name : String) :
    (w.get? name).bind Json.asString? = (v.get? name).bind Json.asString? := by
  rcases h.cases_of with rfl | ⟨vs, ws, rfl, rfl⟩ | ⟨members, others, rfl, rfl, place, hplace, h⟩
  · rfl
  · rfl
  · exact bind_asString? h hplace name

theorem typeOf?_eq (h : LosesNulls told place v w) : typeOf? w = typeOf? v := get?_asString? h "type"

theorem holdsStatements_eq (h : LosesNulls told place v w) :
    holdsStatements w = holdsStatements v := by
  have htype := h.typeOf?_eq
  unfold typeOf? at htype
  rw [holdsStatements, holdsStatements, htype]

/-! ## What is left in a slot -/

/-- Members that are not `null` are left, if they are there. -/
theorem present? (h : LosesNulls told place (.object members) (.object others))
    (hplace : place ≠ .nodes) (name : String) :
    Option.Rel (LosesNulls told (place.below (.object members) name))
      (Estree.present? members name) (Estree.present? others name) := by
  unfold Estree.present?
  rcases h.member hplace name with ⟨hv, hw, -⟩ | hkept
  · rw [hv, hw]
    exact .none
  · generalize Members.get? members name = o, Members.get? others name = o' at hkept
    cases hkept with
    | none => exact .none
    | @some v w h =>
      rw [Option.filter_some, Option.filter_some, h.isNull_eq]
      split
      · exact .some h
      · exact .none

theorem filter {p : Json → Bool} (hp : ∀ v w, LosesNulls told place v w → p w = p v)
    {vs ws : List Json} (h : List.Forall₂ (LosesNulls told place) vs ws) :
    List.Forall₂ (LosesNulls told place) (vs.filter p) (ws.filter p) := by
  refine List.rel_filter (fun v w h => ?_) h
  show p v = true ↔ p w = true
  rw [hp v w h]

/-- The elements of what is left of a sequence are those of the sequence, each with what is left of
it. -/
theorem oneOrMany {o o' : Option Json} (h : Option.Rel (LosesNulls told .nodes) o o') :
    List.Forall₂ (LosesNulls told .node) (Estree.oneOrMany o) (Estree.oneOrMany o') := by
  have hsame (vs : List Json) : List.Forall₂ (LosesNulls told .node) vs vs :=
    List.forall₂_same.2 fun v _ => .same .node v
  cases h with
  | none => exact .nil
  | some h =>
    cases h with
    | same => exact hsame _
    | object hplace => exact absurd rfl hplace
    | lone h =>
      cases h with
      | same => exact hsame _
      | object hplace hnew hlost hkept => exact .cons (.object hplace hnew hlost hkept) .nil
    | items h => exact filter (fun v w h => by rw [h.isNull_eq]) h

/-- The nodes in a slot are left in it, each with what is left of it. -/
theorem nodes (h : LosesNulls told .node (.object members) (.object others))
    (htype : typeOf? (.object members) = some kind) (hslot : slot ∈ slots kind) :
    List.Forall₂ (LosesNulls told .node) (slot.nodes members) (slot.nodes others) := by
  have hpresent := h.present? Place.node_ne_nodes slot.name
  rw [Place.below_slot htype hslot] at hpresent
  obtain ⟨name, use⟩ := slot
  cases use with
  | required | optional =>
    unfold Slot.nodes
    generalize Estree.present? members name = o, Estree.present? others name = o' at hpresent
    cases hpresent with
    | none => exact .nil
    | some h => exact .cons h .nil
  | sequence => exact oneOrMany hpresent
  | text => exact .nil
  | statements =>
    unfold Slot.nodes
    rw [← oneOrMany_present?, ← oneOrMany_present?]
    exact filter (fun v w h => h.holdsStatements_eq) (oneOrMany hpresent)

/-- A slot is filled if it was. -/
theorem isFilled_eq (h : LosesNulls told .node (.object members) (.object others)) (slot : Slot) :
    slot.isFilled others = slot.isFilled members := by
  have hpresent := h.present? Place.node_ne_nodes slot.name
  unfold Slot.isFilled
  generalize Estree.present? members slot.name = o,
    Estree.present? others slot.name = o' at hpresent
  cases hpresent with
  | none => rfl
  | some h => simp only [Option.isSome_some, Option.bind_some, h.asString?_eq]

/-! ## Trees -/

/-- A literal keeps its value if it keeps what marks a regular expression. -/
theorem literal_eq (h : LosesNulls marksRegexp .node (.object members) (.object others))
    (htype : typeOf? (.object members) = some "Literal") : literal others = literal members := by
  have hregex := (h.member Place.node_ne_nodes "regex").resolve_left fun hlost => hlost.2.2 rfl ⟨htype, rfl⟩
  have hvalue := h.member Place.node_ne_nodes "value"
  unfold literal
  simp only [bind_asString? h Place.node_ne_nodes]
  generalize Members.get? members "regex" = o, Members.get? others "regex" = o' at hregex
  cases hregex with
  | some h => simp only [get?_asString? h]
  | none =>
    dsimp only
    cases ((Members.get? members "bigint").bind Json.asString?).bind (Double.parse? ·.toList) with
    | some d => rfl
    | none =>
      rcases hvalue with ⟨hv, hw, -⟩ | hkept
      · rw [hv, hw]
      · generalize Members.get? members "value" = o, Members.get? others "value" = o' at hkept
        cases hkept with
        | none => rfl
        | some h =>
          rcases h.cases_of with rfl | ⟨vs, ws, rfl, rfl⟩ | ⟨members, others, rfl, rfl, -⟩ <;> rfl

theorem all_eq {self : Json → Result Node}
    (hself : ∀ v w, LosesNulls told place v w → self w = self v) {vs ws : List Json}
    (h : List.Forall₂ (LosesNulls told place) vs ws) : all self ws = all self vs := by
  induction h with
  | nil => rfl
  | cons h _ ih => rw [all, all, hself _ _ h, ih]

/-- A node is read alike from what is left of it if its parts are. -/
theorem ofMembers_eq {self : Json → Result Node}
    (hself : ∀ v w, LosesNulls marksRegexp .node v w → self w = self v)
    (h : LosesNulls marksRegexp .node (.object members) (.object others))
    (htype : typeOf? (.object members) = some kind) :
    ofMembers self kind others = ofMembers self kind members := by
  have hread : ∀ slot ∈ slots kind,
      Slot.read self kind others slot = Slot.read self kind members slot := by
    intro slot hslot
    rw [Slot.read, Slot.read, h.isFilled_eq, all_eq hself (h.nodes htype hslot)]
  have hassemble : assemble kind others = assemble kind members := by
    funext nodes
    refine assemble_told (fun slot _ _ => ?_) (fun name _ => ?_) (fun name _ => ?_) (fun hkind => ?_)
      nodes
    · exact bind_asString? h Place.node_ne_nodes slot.name
    · exact bind_asString? h Place.node_ne_nodes name
    · exact bind_eq rfl (fun _ _ _ => asBoolean?_eq) h Place.node_ne_nodes name
    · exact literal_eq h (hkind ▸ htype)
  rw [ofMembers_eq_assemble, ofMembers_eq_assemble, readSlots, readSlots, mapM_congr hread, hassemble]

theorem node_eq (limit depth : Nat) (h : LosesNulls marksRegexp .node v w) :
    Estree.node limit depth w = Estree.node limit depth v := by
  induction depth generalizing v w with
  | zero => rfl
  | succ depth ih =>
    cases h with
    | same => rfl
    | @object _ members others hplace hnew hlost hkept =>
      have h : LosesNulls marksRegexp .node (.object members) (.object others) :=
        .object hplace hnew hlost hkept
      have hsame : (Members.get? others "type").bind Json.asString? =
          (Members.get? members "type").bind Json.asString? := bind_asString? h hplace "type"
      unfold Estree.node
      simp only [hsame]
      cases htype : (Members.get? members "type").bind Json.asString? with
      | none => rfl
      | some kind => exact ofMembers_eq (fun _ _ => ih) h htype

end LosesNulls

/-- With every limit, a value that has lost members that are `null` is read as the same tree as before,
or refused with the same error, if no literal has lost what marks a regular expression. -/
theorem readValue_losesNulls (limit : Nat) (h : LosesNulls marksRegexp .node v w) :
    readValue limit w = readValue limit v := by
  rw [readValue, readValue, h.node_eq]

/-! ## Lists of members -/

/-- A list of members without some that are `null`, and with others changed. -/
inductive Sheds (lost : String → Prop) (changed : String → Json → Json → Prop) :
    Members → Members → Prop where
  | nil : Sheds lost changed [] []
  | lose {name : String} {members others : Members} (hname : lost name)
      (h : Sheds lost changed members others) : Sheds lost changed ((name, .null) :: members) others
  | keep {name : String} {v w : Json} {members others : Members} (hv : changed name v w)
      (h : Sheds lost changed members others) :
      Sheds lost changed ((name, v) :: members) ((name, w) :: others)

/-- A name that stands only once is lost with its member. -/
theorem Sheds.member {lost : String → Prop} {changed : String → Json → Json → Prop}
    (hkeys : (members.map Prod.fst).Nodup) (h : Sheds lost changed members others) (name : String) :
    (Members.get? members name = none ∧ Members.get? others name = none) ∨
      (Members.get? members name = some .null ∧ Members.get? others name = none ∧ lost name) ∨
      ∃ v w, Members.get? members name = some v ∧ Members.get? others name = some w ∧
        changed name v w := by
  induction h with
  | nil => exact .inl ⟨rfl, rfl⟩
  | @lose first members others hname h ih =>
    obtain ⟨hfirst, hkeys⟩ := List.nodup_cons.1 hkeys
    by_cases heq : first = name
    · subst heq
      have hnone := Members.get?_eq_none hfirst
      rcases ih hkeys with ⟨-, hothers⟩ | ⟨hnull, -⟩ | ⟨v, w, hv, -⟩
      · exact .inr (.inl ⟨if_pos rfl, hothers, hname⟩)
      · rw [hnone] at hnull
        cases hnull
      · rw [hnone] at hv
        cases hv
    · rw [Members.get?, if_neg heq]
      exact ih hkeys
  | @keep first v w members others hv h ih =>
    obtain ⟨-, hkeys⟩ := List.nodup_cons.1 hkeys
    by_cases heq : first = name
    · subst heq
      exact .inr (.inr ⟨v, w, if_pos rfl, if_pos rfl, hv⟩)
    · rw [Members.get?, Members.get?, if_neg heq, if_neg heq]
      exact ih hkeys

/-- An object whose names are distinct may lose any of its members that are `null`, and its other
members may lose some of theirs. -/
theorem losesNulls_of_sheds (hplace : place ≠ .nodes) (hkeys : (members.map Prod.fst).Nodup)
    (h : Sheds (fun name => place = .node → ¬ told (.object members) name)
      (fun name => LosesNulls told (place.below (.object members) name)) members others) :
    LosesNulls told place (.object members) (.object others) := by
  refine .object hplace (fun name hv => ?_) (fun name v hv hw => ?_) (fun name v w hv hw => ?_)
  all_goals
    rcases h.member hkeys name with ⟨hm, ho⟩ | ⟨hm, ho, hlost⟩ | ⟨v', w', hm, ho, hchanged⟩
  all_goals simp_all

/-- The literal `null`, returned at the top of a program, with `null` members in all three nodes. -/
def wordyReturn : Json :=
  .object [("type", .string "Program"), ("body", .array [
    .object [("type", .string "ReturnStatement"),
      ("argument", .object [("type", .string "Literal"), ("value", .null), ("raw", .null)]),
      ("loc", .null)]]), ("comments", .null)]

/-- The same program without them. -/
def terseReturn : Json :=
  .object [("type", .string "Program"), ("body", .array [
    .object [("type", .string "ReturnStatement"),
      ("argument", .object [("type", .string "Literal")])]])]

/-- All four members go, at three levels, and the program is still the same. -/
theorem readValue_losesNulls_return :
    LosesNulls marksRegexp .node wordyReturn terseReturn ∧
      readValue 2 terseReturn = readValue 2 wordyReturn ∧
      readValue 2 wordyReturn = .ok (.program [.return (some (.literal .null))]) := by
  have hunmarked {v : Json} {name : String} (h : name ≠ "regex") :
      Place.node = .node → ¬ marksRegexp v name := fun _ hmarks => h hmarks.2
  have hliteral : LosesNulls marksRegexp .node
      (.object [("type", .string "Literal"), ("value", .null), ("raw", .null)])
      (.object [("type", .string "Literal")]) := by
    refine losesNulls_of_sheds Place.node_ne_nodes (by decide) (.keep (.same _ _) ?_)
    exact .lose (hunmarked (by decide)) (.lose (hunmarked (by decide)) .nil)
  have hreturn : LosesNulls marksRegexp .node
      (.object [("type", .string "ReturnStatement"),
        ("argument", .object [("type", .string "Literal"), ("value", .null), ("raw", .null)]),
        ("loc", .null)])
      (.object [("type", .string "ReturnStatement"),
        ("argument", .object [("type", .string "Literal")])]) := by
    refine losesNulls_of_sheds Place.node_ne_nodes (by decide) (.keep (.same _ _) ?_)
    exact .keep hliteral (.lose (hunmarked (by decide)) .nil)
  have hprogram : LosesNulls marksRegexp .node wordyReturn terseReturn := by
    refine losesNulls_of_sheds Place.node_ne_nodes (by decide) (.keep (.same _ _) ?_)
    exact .keep (.items (.cons hreturn .nil)) (.lose (hunmarked (by decide)) .nil)
  exact ⟨hprogram, readValue_losesNulls 2 hprogram, rfl⟩

/-! ## The mark of a regular expression -/

theorem literal_of_null_mark (h : Members.get? members "regex" = some .null) :
    literal members = .regexp "//" := by
  unfold literal
  simp only [h]
  rfl

theorem literal_of_no_mark (h : Members.get? members "regex" = none) (source : String) :
    literal members ≠ .regexp source := by
  intro hregexp
  unfold literal at hregexp
  simp only [h] at hregexp
  -- The digits of a big integer, each sort of value, and the source text
  repeat' split at hregexp
  all_goals cases hregexp

/-- A literal whose mark is `null` is read as the empty regular expression, and as something else once
the mark is gone. -/
theorem node_literal_unmarked (limit depth : Nat)
    (htype : Members.get? members "type" = some (.string "Literal"))
    (hothers : Members.get? others "type" = some (.string "Literal"))
    (hnull : Members.get? members "regex" = some .null)
    (hnone : Members.get? others "regex" = none) :
    node limit (depth + 1) (.object members) = .ok (.literal (.regexp "//")) ∧
      node limit (depth + 1) (.object others) ≠ node limit (depth + 1) (.object members) := by
  have hmarked : node limit (depth + 1) (.object members) = .ok (.literal (.regexp "//")) := by
    rw [node_object htype, ← literal_of_null_mark hnull]
    rfl
  refine ⟨hmarked, ?_⟩
  rw [hmarked, node_object hothers]
  intro hsame
  have hliteral : ofMembers (node limit depth) "Literal" others = .ok (.literal (literal others)) :=
    rfl
  rw [hliteral, Except.ok.injEq, Node.literal.injEq] at hsame
  exact literal_of_no_mark hnone "//" hsame

/-- The program that returns a literal. -/
def returning (literal : Members) : Json :=
  .object [("type", .string "Program"), ("body", .array [
    .object [("type", .string "ReturnStatement"), ("argument", .object literal)]])]

/-- The number `1` is read as a regular expression if that mark is `null`, and as the number without
it. -/
theorem null_mark_is_told :
    LosesNulls (fun _ _ => False) .node
        (returning [("type", .string "Literal"), ("value", Json.ofNat 1), ("regex", .null)])
        (returning [("type", .string "Literal"), ("value", Json.ofNat 1)]) ∧
      readValue 2 (returning [("type", .string "Literal"), ("value", Json.ofNat 1),
        ("regex", .null)]) = .ok (.program [.return (some (.literal (.regexp "//")))]) ∧
      readValue 2 (returning [("type", .string "Literal"), ("value", Json.ofNat 1)]) =
        .ok (.program [.return (some (.literal (.number (.ofInt 1))))]) := by
  refine ⟨?_, rfl, rfl⟩
  have hliteral : LosesNulls (fun _ _ => False) .node
      (.object [("type", .string "Literal"), ("value", Json.ofNat 1), ("regex", .null)])
      (.object [("type", .string "Literal"), ("value", Json.ofNat 1)]) := by
    refine losesNulls_of_sheds Place.node_ne_nodes (by decide) (.keep (.same _ _) (.keep (.same _ _) ?_))
    exact .lose (fun _ h => h) .nil
  have hreturn : LosesNulls (fun _ _ => False) .node
      (.object [("type", .string "ReturnStatement"), ("argument",
        .object [("type", .string "Literal"), ("value", Json.ofNat 1), ("regex", .null)])])
      (.object [("type", .string "ReturnStatement"), ("argument",
        .object [("type", .string "Literal"), ("value", Json.ofNat 1)])]) :=
    losesNulls_of_sheds Place.node_ne_nodes (by decide) (.keep (.same _ _) (.keep hliteral .nil))
  refine losesNulls_of_sheds Place.node_ne_nodes (by decide) (.keep (.same _ _) ?_)
  exact .keep (.items (.cons hreturn .nil)) .nil

end Estree

end ScriptOutline
