import Mathlib.Tactic.Common
import ScriptOutline.Proofs.Estree.Reading
import ScriptOutline.Proofs.Script.Nesting
import ScriptOutline.Proofs.Script.Standard
import ScriptOutline.Proofs.Syntax.Names

/-!
# Converted trees and the standard shape

What a conversion yields, unless it runs out of levels: a node that the corresponding value in the
standard shape stands for, once its names are taken away (`Converts`). For lists and slots of nodes
this is said once, and each construct is then put together from its slots. How names are taken away
is left open, as far as `Node.Erases` allows: where there are none, doing nothing is a way.
-/

namespace ScriptOutline

namespace Script

namespace Standard

open Json (Members)
open Script.Convert
open Estree (ReadsAs Stands Slot)

variable {e : AnalysisError} {R : Tree → Json → Prop} {t : Tree} {v : Json} {members : Members}
  {key : String} {o : Option Tree} {named : Bool} {f : Node → Node}

/-- The conversion fails with the error, or yields a node that the value stands for after a change.
-/
def Converts (f : Node → Node) (e : AnalysisError) (r : Converted Node) (v : Json) : Prop :=
  YieldsUnless e r fun n => ReadsAs v (f n)

/-! ## Slots -/

theorem Has.exists_of {j : Option Json} (h : Has R o j) :
    ∃ t v, o = some t ∧ j = some v ∧ R t v := by
  cases h with
  | intro h => exact ⟨_, _, rfl, rfl, h⟩

theorem required_eq {role : Role} {part : Tree} (h : t.part? role = some part) :
    required t role = .ok part := by
  rw [required, h]

/-- A part that must be there. -/
theorem yields_required {self : Tree → Converted Node} {role : Role}
    (h : Has R (t.part? role) (Members.get? members key))
    (hself : ∀ u v, R u v → Converts f e (self u) v) :
    YieldsUnless e (required t role >>= self) fun n =>
      Stands members ⟨key, .required⟩ [f n] := by
  obtain ⟨u, v, hu, hv, hR⟩ := h.exists_of
  rw [required_eq hu]
  exact (hself u v hR).mono fun n hn => Estree.stands_required hv hn

theorem yields_required_bind {self : Tree → Converted Node} {next : Node → Converted Node}
    {role : Role} {P : Node → Prop} (h : Has R (t.part? role) (Members.get? members key))
    (hself : ∀ u v, R u v → Converts f e (self u) v)
    (hnext : ∀ n, Stands members ⟨key, .required⟩ [f n] → YieldsUnless e (next n) P) :
    YieldsUnless e (required t role >>= fun u => self u >>= next) P := by
  rw [← bind_assoc]
  exact (yields_required h hself).bind hnext

/-- A part that may be absent, however its presence is told. -/
theorem yields_present {r : Converted (Option Node)}
    (h : YieldsUnless e r fun n =>
      Option.Rel ReadsAs (Estree.present? members key) (n.map f)) :
    YieldsUnless e r fun n =>
      Stands members ⟨key, .optional⟩ (n.map f).toList :=
  h.mono fun _ hn => Estree.stands_optional hn

theorem yields_mapM {self : Tree → Converted Node} {j : Option Json} (h : Option.Rel R o j)
    (hself : ∀ u v, R u v → Converts f e (self u) v) :
    YieldsUnless e (o.mapM self) fun n => Option.Rel ReadsAs j (n.map f) := by
  cases h with
  | none => exact .pure .none
  | some hR => exact (hself _ _ hR).bind fun n hn => .pure (.some hn)

/-- A sequence of parts. -/
theorem yields_sequence {self : Tree → Converted Node} {ts : List Tree} {vs : List Json}
    (hget : Members.get? members key = some (.array vs)) (h : List.Forall₂ R ts vs)
    (hself : ∀ u v, R u v → Converts f e (self u) v) :
    YieldsUnless e (convertAll self ts) fun ns =>
      Stands members ⟨key, .sequence⟩ (ns.map f) := by
  rw [convertAll_eq_mapM]
  refine (YieldsUnless.mapM h hself).mono fun ns hns => Estree.stands_sequence hget ?_
  exact List.forall₂_map_right_iff.2 hns

/-! ## Expressions -/

theorem HasOnly.get?_eq_none {keys : List String} (h : HasOnly members keys)
    (hkey : key ∉ commonKeys ++ keys) : Members.get? members key = none := by
  cases hget : Members.get? members key with
  | none => rfl
  | some v => exact absurd (List.mem_append.2 (h key v hget)) hkey

/-- An unsupported node that has only members of its own and positions loses its name. -/
theorem readsAs_nameless (hf : Node.Erases named f) (hnamed : named = true) {kind : String}
    {keys : List String} (name : Option String)
    (htype : Members.get? members "type" = some (.string kind))
    (hkind : kind ∉ Node.supportedNames) (honly : HasOnly members keys)
    (hkeys : ∀ key ∈ "name" :: Estree.statementSlots, key ∉ commonKeys ++ keys) :
    ReadsAs (.object members) (f (.unsupported kind name [])) := by
  have hnone (key : String) (h : key ∈ "name" :: Estree.statementSlots) :
      Members.get? members key = none := honly.get?_eq_none (hkeys key h)
  have hname := hnone "name" List.mem_cons_self
  rw [hf.unsupported hnamed]
  exact Estree.readsAs_unsupported hkind htype hname fun slot hslot =>
    hnone slot (List.mem_cons_of_mem _ hslot)

theorem literal_eq_of_denotes {value : Literal} (h : Denotes members value) :
    Estree.literal members = value := by
  cases h with
  | integer hregex hbigint hvalue hd => simp [Estree.literal, hregex, hbigint, hvalue, hd]
  | float hregex hbigint hvalue => simp [Estree.literal, hregex, hbigint, hvalue]
  | bigint hregex hbigint hd =>
    simp [Estree.literal, hregex, hbigint, Json.asString?, hd]
  | string hregex hbigint hvalue => simp [Estree.literal, hregex, hbigint, hvalue]
  | boolean hregex hbigint hvalue => simp [Estree.literal, hregex, hbigint, hvalue]
  | null hregex hbigint hvalue => simp [Estree.literal, hregex, hbigint, hvalue]
  | regexp hregex hpattern hflags =>
    simp [Estree.literal, hregex, Json.get?, hpattern, hflags, Json.asString?]

theorem expressionWith_constant {value : Literal} (self : Tree → Converted Node)
    (h : constant? t = some value) : expressionWith self t = .ok (.literal value) := by
  unfold constant? at h
  split at h
  case h_7 => cases h
  all_goals
    cases h
    simp only [expressionWith, *]
    rfl

theorem expressionWith_name {k : Kind} (self : Tree → Converted Node) (hk : t.kind? = some k)
    (hname : k ∈ nameKinds) : expressionWith self t = .ok (.identifier t.text) := by
  simp only [nameKinds, List.mem_cons, List.not_mem_nil, or_false] at hname
  rcases hname with rfl | rfl | rfl <;>
  · simp only [expressionWith, hk]
    rfl

theorem requiredText_eq {role : Role} {part : Tree} (h : t.part? role = some part) :
    requiredText t role = .ok part.text := by
  rw [requiredText, required_eq h]
  rfl

theorem mem_logical_iff (operator : String) :
    operator ∈ ["&&", "||", "??"] ↔ isLogical operator = true := by
  simp [isLogical, or_assoc]

/-- Operands on both sides of an operator, which decides on the type. -/
theorem readsAs_binary (hf : Node.Erases named f) {operator : String} {left right : Node}
    (htype : Members.get? members "type" = some (.string (binaryType operator)))
    (htext : Members.get? members "operator" = some (.string operator))
    (hleft : Stands members ⟨"left", .required⟩ [f left])
    (hright : Stands members ⟨"right", .required⟩ [f right]) :
    ReadsAs (.object members)
      (f (if isLogical operator then .logical operator left right
        else .binary operator left right)) := by
  have hslots := List.Forall₂.cons (Estree.stands_text htext) (.cons hleft (.cons hright .nil))
  unfold binaryType at htype
  by_cases hlogical : isLogical operator = true
  · rw [if_pos ((mem_logical_iff operator).2 hlogical)] at htype
    refine Estree.readsAs_of_slots htype rfl hslots ?_
    simp [Estree.assemble, Estree.nodeAt, Estree.nodesAt, Estree.stringOr_eq htext, hf.logical,
      hlogical]
  · rw [if_neg fun h => hlogical ((mem_logical_iff operator).1 h)] at htype
    refine Estree.readsAs_of_slots htype rfl hslots ?_
    simp [Estree.assemble, Estree.nodeAt, Estree.nodesAt, Estree.stringOr_eq htext, hf.binary,
      hlogical]

/-- Assignments, plain and with an operator. -/
theorem readsAs_assignment (hf : Node.Erases named f) {operator : String} {left right : Node}
    (htype : Members.get? members "type" = some (.string "AssignmentExpression"))
    (htext : Members.get? members "operator" = some (.string operator))
    (hleft : Stands members ⟨"left", .required⟩ [f left])
    (hright : Stands members ⟨"right", .required⟩ [f right]) :
    ReadsAs (.object members) (f (.assignment operator left right)) := by
  refine Estree.readsAs_of_slots htype rfl (.cons hleft (.cons hright .nil)) ?_
  simp [Estree.assemble, Estree.nodeAt, Estree.nodesAt, Estree.stringOr_eq htext, hf.assignment]

/-- Members, by name and by index. -/
theorem readsAs_member (hf : Node.Erases named f) {object property : Node} {computed : Bool}
    (htype : Members.get? members "type" = some (.string "MemberExpression"))
    (hobject : Stands members ⟨"object", .required⟩ [f object])
    (hproperty : Stands members ⟨"property", .required⟩ [f property])
    (hcomputed : Members.get? members "computed" = some (.boolean computed)) :
    ReadsAs (.object members) (f (.member object property computed)) := by
  refine Estree.readsAs_of_slots htype rfl (.cons hobject (.cons hproperty .nil)) ?_
  simp [Estree.assemble, Estree.nodeAt, Estree.nodesAt, hcomputed, Json.asBoolean?,
    hf.member]

/-- By induction on the levels left, with one case for each rule. -/
theorem converts_expression (hf : Node.Erases named f) (limit depth : Nat)
    (h : Expression named t v) :
    Converts f (.nestingTooDeep limit) (expression limit depth t) v := by
  induction depth generalizing t v with
  | zero => exact .of_error _
  | succ depth ih =>
    have hself (u : Tree) (w : Json) (h : Expression named u w) :
        Converts f (.nestingTooDeep limit) (expression limit depth u) w := ih h
    rw [expression]
    cases h with
    | parenthesized hk hinner h =>
      simp only [expressionWith, hk, hinner]
      exact ih h
    | name hk hname htype htext =>
      rw [expressionWith_name _ hk hname]
      refine .pure (Estree.readsAs_of_slots htype rfl (.cons (Estree.stands_text htext) .nil) ?_)
      simp [Estree.assemble, Estree.stringOr_eq htext, hf.identifier]
    | member hk htype hobject hproperty hcomputed =>
      simp only [expressionWith, hk]
      refine (yields_required hobject hself).bind fun object hobject => ?_
      refine (yields_required hproperty hself).bind fun property hproperty => ?_
      exact .pure (readsAs_member hf htype hobject hproperty hcomputed)
    | subscript hk htype hobject hindex hcomputed =>
      simp only [expressionWith, hk]
      refine (yields_required hobject hself).bind fun object hobject => ?_
      refine (yields_required hindex hself).bind fun index hindex => ?_
      exact .pure (readsAs_member hf htype hobject hindex hcomputed)
    | binary hk hoperator htype htext hleft hright =>
      simp only [expressionWith, hk, requiredText_eq hoperator]
      refine (yields_required hleft hself).bind fun left hleft => ?_
      refine (yields_required hright hself).bind fun right hright => ?_
      exact .pure (readsAs_binary hf htype htext hleft hright)
    | unary hk hoperator htype htext hargument =>
      simp only [expressionWith, hk, requiredText_eq hoperator]
      refine (yields_required hargument hself).bind fun argument hargument => .pure ?_
      have hslots := List.Forall₂.cons (Estree.stands_text htext) (.cons hargument .nil)
      refine Estree.readsAs_of_slots htype rfl hslots ?_
      simp [Estree.assemble, Estree.nodeAt, Estree.nodesAt, Estree.stringOr_eq htext,
        hf.unary]
    | assignment hk hoperator htype htext hleft hright =>
      simp only [expressionWith, hk, hoperator]
      refine (yields_required hleft hself).bind fun left hleft => ?_
      refine (yields_required hright hself).bind fun right hright => ?_
      exact .pure (readsAs_assignment hf htype htext hleft hright)
    | augmented hk hoperator htype htext hleft hright =>
      simp only [expressionWith, hk, hoperator]
      refine (yields_required hleft hself).bind fun left hleft => ?_
      refine (yields_required hright hself).bind fun right hright => ?_
      exact .pure (readsAs_assignment hf htype htext hleft hright)
    | literal ht htype hvalue =>
      rw [expressionWith_constant _ ht]
      refine .pure (Estree.readsAs_of_slots htype rfl .nil ?_)
      simp [Estree.assemble, literal_eq_of_denotes hvalue, hf.literal]
    | this hnamed hk htype honly =>
      simp only [expressionWith, hk]
      exact .pure (readsAs_nameless hf hnamed _ htype (by decide) honly (by decide))

/-! ## Statements -/

theorem converts_parameter (hf : Node.Erases named f) (limit depth : Nat)
    (h : Parameter named t v) :
    Converts f (.nestingTooDeep limit) (parameter limit depth t) v := by
  cases h with
  | plain hk h =>
    simp only [parameter, hk]
    exact converts_expression hf limit depth h
  | default hnamed hk htype hleft hright honly =>
    simp only [parameter, hk]
    exact .pure (readsAs_nameless hf hnamed _ htype (by decide) honly (by decide))
  | rest hnamed hk htype hargument honly =>
    simp only [parameter, hk]
    exact .pure (readsAs_nameless hf hnamed _ htype (by decide) honly (by decide))

theorem converts_declarator (hf : Node.Erases named f) (limit depth : Nat)
    (h : Declarator named t v) :
    Converts f (.nestingTooDeep limit) (declarator limit depth t) v := by
  cases depth with
  | zero => exact .of_error _
  | succ depth =>
    have hself (u : Tree) (w : Json) (h : Expression named u w) :
        Converts f (.nestingTooDeep limit) (expression limit depth u) w :=
      converts_expression hf limit depth h
    cases h with
    | intro htype hid hinit =>
      refine yields_required_bind hid hself fun id hid => ?_
      refine (yields_present (yields_mapM hinit hself)).bind fun init hinit => .pure ?_
      refine Estree.readsAs_of_slots htype rfl (.cons hid (.cons hinit .nil)) ?_
      simp [Estree.assemble, Estree.nodeAt, Estree.nodesAt, hf.declarator]

/-- A part of a header is converted as the expression in it. -/
theorem headerPart_eq (limit depth : Nat) (t : Tree) :
    headerPart limit depth t = (headerExpression? t).mapM (expression limit depth) := by
  unfold headerPart
  split
  · rfl
  · next hnode =>
    unfold headerExpression?
    split
    · next hk => rw [hk]; rfl
    · next hk => rw [hk]
    · next hempty hstatement =>
      split
      · next hk =>
        cases t with
        | token s => exact absurd rfl (hnode s)
        | leaf | node => cases hk
      · next hk => exact absurd hk hempty
      · next hk => exact absurd hk hstatement
      · cases h : expression limit depth t <;> simp [Option.mapM_some, Functor.map, Except.map, h]

theorem optionalPart_headerPart (limit depth : Nat) (o : Option Tree) :
    optionalPart (headerPart limit depth) o =
      (o.bind headerExpression?).mapM (expression limit depth) := by
  cases o with
  | none => rfl
  | some part => exact headerPart_eq limit depth part

theorem yields_alternative {self : Tree → Converted Node} {j : Option Json}
    (h : Alternative R o j) (hself : ∀ u v, R u v → Converts f e (self u) v) :
    YieldsUnless e
      (o.mapM fun clause =>
        match clause.visibleChildren.head? with
        | some branch => self branch
        | none => throw (.malformedNode "IfStatement" "alternate"))
      fun n => Option.Rel ReadsAs j (n.map f) := by
  cases h with
  | none => exact .pure .none
  | @some clause branch v hbranch h =>
    simp only [Option.mapM_some, hbranch]
    exact (hself branch v h).bind fun n hn => .pure (.some hn)

theorem initializer_eq (declaration : Tree → Converted Node) (limit depth : Nat)
    (h : declares t = false) :
    initializer declaration limit depth t = headerPart limit depth t := by
  rw [initializer, ← declares, h]
  rfl

theorem yields_initial (hf : Node.Erases named f) {self : Tree → Converted Node} {j : Option Json}
    (limit depth : Nat) (h : Initial named R o j)
    (hself : ∀ u v, R u v → Converts f (.nestingTooDeep limit) (self u) v) :
    YieldsUnless (.nestingTooDeep limit) (optionalPart (initializer self limit depth) o) fun n =>
      Option.Rel ReadsAs j (n.map f) := by
  cases h with
  | @declaration u v ht h =>
    have hdeclaration : initializer self limit depth u = (self u).map some := by
      rw [initializer, ← declares, ht]
      rfl
    rw [optionalPart, hdeclaration]
    exact (hself u v h).bind fun n hn => .pure (.some hn)
  | expression ho h =>
    have hheader : optionalPart (initializer self limit depth) o =
        (o.bind headerExpression?).mapM (expression limit depth) := by
      rw [← optionalPart_headerPart]
      cases o with
      | none => rfl
      | some u => exact initializer_eq self limit depth (ho u rfl)
    rw [hheader]
    exact yields_mapM h fun _ _ => converts_expression hf limit depth

/-- By induction on the levels left, with one case for each rule. -/
theorem converts_statement (hf : Node.Erases named f) (limit depth : Nat)
    (h : Statement named t v) :
    Converts f (.nestingTooDeep limit) (statement limit depth t) v := by
  induction depth generalizing t v with
  | zero => exact .of_error _
  | succ depth ih =>
    have hself (u : Tree) (w : Json) (h : Statement named u w) :
        Converts f (.nestingTooDeep limit) (statement limit depth u) w := ih h
    have hexpression (u : Tree) (w : Json) (h : Expression named u w) :
        Converts f (.nestingTooDeep limit) (expression limit depth u) w :=
      converts_expression hf limit depth h
    unfold statement
    cases h with
    | function hk htype hid hlist hparams h hbody =>
      have hrequired := required_eq hlist
      rcases hk with hk | hk <;>
      · simp only [hk]
        refine yields_required_bind hid hexpression fun id hid => ?_
        rw [hrequired]
        refine (yields_sequence hparams h fun _ _ => converts_parameter hf limit depth).bind
          fun params hparams => ?_
        refine yields_required_bind hbody hself fun body hbody => .pure ?_
        refine Estree.readsAs_of_slots htype rfl (.cons hid (.cons hparams (.cons hbody .nil))) ?_
        simp [Estree.assemble, Estree.nodeAt, Estree.nodesAt, hf.function]
    | block hk htype hbody h =>
      simp only [hk]
      refine (yields_sequence hbody h hself).bind fun body hbody => .pure ?_
      refine Estree.readsAs_of_slots htype rfl (.cons hbody .nil) ?_
      simp [Estree.assemble, Estree.nodesAt, hf.block]
    | «variables» hk htype hkeyword hkind hdeclarations h =>
      have hdeclarators := yields_sequence hdeclarations h
        fun _ _ => converts_declarator hf limit depth
      rw [declares, Bool.or_eq_true, beq_iff_eq, beq_iff_eq] at hk
      rcases hk with hk | hk <;>
      · simp only [hk, hkeyword]
        refine hdeclarators.bind fun declarations hdeclarations => .pure ?_
        refine Estree.readsAs_of_slots htype rfl (.cons hdeclarations .nil) ?_
        simp [Estree.assemble, Estree.nodesAt, Estree.stringOr_eq hkind, hf.«variables»]
    | expression hk htype h =>
      obtain ⟨inner, w, hinner, hw, h⟩ := h.exists_of
      simp only [hk, hinner]
      refine (hexpression inner w h).bind fun n hn => .pure ?_
      refine Estree.readsAs_of_slots htype rfl (.cons (Estree.stands_required hw hn) .nil) ?_
      simp [Estree.assemble, Estree.nodeAt, Estree.nodesAt, hf.expression]
    | «while» hk htype htest hbody =>
      simp only [hk]
      refine yields_required_bind htest hexpression fun test htest => ?_
      refine yields_required_bind hbody hself fun body hbody => .pure ?_
      refine Estree.readsAs_of_slots htype rfl (.cons htest (.cons hbody .nil)) ?_
      simp [Estree.assemble, Estree.nodeAt, Estree.nodesAt, hf.«while»]
    | «if» hk htype htest hconsequent halternate =>
      simp only [hk]
      refine yields_required_bind htest hexpression fun test htest => ?_
      refine yields_required_bind hconsequent hself fun consequent hconsequent => ?_
      refine (yields_present (yields_alternative halternate hself)).bind
        fun alternate halternate => .pure ?_
      refine Estree.readsAs_of_slots htype rfl
        (.cons htest (.cons hconsequent (.cons halternate .nil))) ?_
      simp [Estree.assemble, Estree.nodeAt, Estree.nodesAt, hf.«if»]
    | «for» hk htype hinit htest hupdate hbody =>
      simp only [hk, optionalPart_headerPart]
      refine (yields_present (yields_initial hf limit depth hinit hself)).bind fun init hinit => ?_
      refine (yields_present (yields_mapM htest hexpression)).bind fun test htest => ?_
      refine (yields_present (yields_mapM hupdate hexpression)).bind fun update hupdate => ?_
      refine yields_required_bind hbody hself fun body hbody => .pure ?_
      refine Estree.readsAs_of_slots htype rfl
        (.cons hinit (.cons htest (.cons hupdate (.cons hbody .nil)))) ?_
      simp [Estree.assemble, Estree.nodeAt, Estree.nodesAt, hf.«for»]
    | «return» hk htype h =>
      simp only [hk]
      refine (yields_present (yields_mapM h hexpression)).bind fun argument hargument => .pure ?_
      refine Estree.readsAs_of_slots htype rfl (.cons hargument .nil) ?_
      simp [Estree.assemble, Estree.nodesAt, hf.«return»]

theorem converts_program (hf : Node.Erases named f) (limit : Nat) (h : Program named t v) :
    Converts f (.nestingTooDeep limit) (toProgram limit t) v := by
  cases h with
  | intro hk htype hbody h =>
    refine (yields_sequence hbody h fun _ _ => converts_statement hf limit (limit + 1)).bind
      fun body hbody => .pure ?_
    refine Estree.readsAs_of_slots htype rfl (.cons hbody .nil) ?_
    simp [Estree.assemble, Estree.nodesAt, hf.program]

end Standard

end Script

end ScriptOutline
