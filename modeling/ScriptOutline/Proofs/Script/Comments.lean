import Mathlib.Tactic.Common
import ScriptOutline.Proofs.Outline.Cost
import ScriptOutline.Proofs.Outline.Rendering
import ScriptOutline.Proofs.Script.Correspondence
import ScriptOutline.Proofs.Script.Grammatical

/-!
# Scripts without their comments

Comments may stand between any two tokens of a script, so they may be among the parts of every node of
its tree. The conversion finds the parts of a node in two ways. If it asks for what plays a part, it
never meets a comment, for no comment plays one. If it goes by the order of the parts, it leaves out
those of hidden kinds, which comments are, apart from those in the manner of a web page.

So a tree may lose all plain comments and is converted to the same program. It may lose the others too
where none of them stands among parts that are found by their order (`orderedParts`). Where one does,
it is taken for a statement, a parameter or an operand.
-/

namespace ScriptOutline

namespace Script

namespace Kind

/-- Whether nodes of the kind are comments. -/
def isComment (k : Kind) : Bool := k == .comment || k == .htmlComment

theorem isComment_of_plain {k : Kind} (hk : (k == .comment) = true) : k.isComment = true := by
  rw [eq_of_beq hk]
  rfl

end Kind

namespace Tree

/-- Whether the tree has a kind, and one of some sort. -/
def isOf (p : Kind → Bool) (t : Tree) : Bool := t.kind?.any p

mutual

/-- The tree without the nodes of some sort that stand in it. -/
def without (p : Kind → Bool) : Tree → Tree
  | .token s => .token s
  | .leaf k s => .leaf k s
  | .node k children => .node k (childrenWithout p children)

/-- The parts of a node that are not of some sort, each without the nodes of that sort. -/
def childrenWithout (p : Kind → Bool) : List Child → List Child
  | [] => []
  | (role, t) :: rest =>
    if t.isOf p then childrenWithout p rest else (role, t.without p) :: childrenWithout p rest

end

mutual

/-- The tree and everything in it. -/
def subtrees : Tree → List Tree
  | .token s => [.token s]
  | .leaf k s => [.leaf k s]
  | .node k children => .node k children :: subtreesBelow children

/-- The trees in the parts of a node. -/
def subtreesBelow : List Child → List Tree
  | [] => []
  | (_, t) :: rest => t.subtrees ++ subtreesBelow rest

end

/-- The parts of a tree that its conversion finds by their order, and so would take for what they
are not. -/
def orderedParts (t : Tree) : List Tree :=
  match t.kind? with
  | some .program | some .statementBlock => t.visibleChildren
  | some .functionDeclaration | some .generatorFunctionDeclaration =>
    (t.part? .parameters).toList.flatMap visibleChildren
  | some .ifStatement =>
    (t.part? .alternative).toList.flatMap fun clause => clause.visibleChildren.head?.toList
  | some .expressionStatement | some .returnStatement | some .parenthesizedExpression
  | some .assignmentPattern | some .restPattern => t.visibleChildren.head?.toList
  | _ => []

/-- Whether comments stand between the tokens of the node only: the first to play a part is no comment,
and a declaration does not begin with one. -/
def hasCommentsBetween (t : Tree) : Bool :=
  (t.children.all fun c => c.1.all fun role => !(t.part? role).any (isOf Kind.isComment)) &&
    !(t.isOf Kind.declaresVariables && t.children.head?.any (·.2.isOf Kind.isComment))

/-- Whether no comment in the manner of a web page is among the parts that are found by their
order. -/
def hasPlainOrder (t : Tree) : Bool := t.orderedParts.all (!·.isOf (· == .htmlComment))

variable {p : Kind → Bool} {t u : Tree}

/-! ## Trees -/

theorem isOf_mono {q : Kind → Bool} (h : ∀ k, p k = true → q k = true)
    (ht : t.isOf q = false) : t.isOf p = false := by
  rw [isOf, Option.any_eq_false] at ht ⊢
  intro k hk
  rw [Bool.eq_false_iff]
  exact fun hpk => Bool.eq_false_iff.1 (ht k hk) (h k hpk)

theorem mem_subtrees_self (t : Tree) : t ∈ t.subtrees := by
  cases t <;> simp [subtrees]

theorem subset_subtreesBelow {children : List Child} {c : Child} (hc : c ∈ children) :
    c.2.subtrees ⊆ subtreesBelow children := by
  induction children with
  | nil => cases hc
  | cons first rest ih =>
    rw [subtreesBelow]
    rcases List.mem_cons.1 hc with rfl | hc
    · exact List.subset_append_left _ _
    · exact List.Subset.trans (ih hc) (List.subset_append_right _ _)

theorem subset_subtrees {c : Child} (hc : c ∈ t.children) : c.2.subtrees ⊆ t.subtrees := by
  cases t with
  | token s => cases hc
  | leaf k s => cases hc
  | node k children => exact List.Subset.trans (subset_subtreesBelow hc) (List.subset_cons_self _ _)

theorem childrenWithout_eq (children : List Child) :
    childrenWithout p children =
      (children.filter fun c => !c.2.isOf p).map fun c => (c.1, c.2.without p) := by
  induction children with
  | nil => rfl
  | cons c rest ih =>
    rw [childrenWithout, ih]
    cases hc : c.2.isOf p <;> simp [hc]

theorem children_without (t : Tree) :
    (t.without p).children =
      (t.children.filter fun c => !c.2.isOf p).map fun c => (c.1, c.2.without p) := by
  cases t with
  | token s | leaf k s => simp [without, children]
  | node k cs => exact childrenWithout_eq cs

@[simp] theorem kind?_without (t : Tree) : (t.without p).kind? = t.kind? := by
  cases t <;> rfl

@[simp] theorem text_without (t : Tree) : (t.without p).text = t.text := by
  cases t <;> rfl

@[simp] theorem isVisible_without (t : Tree) : (t.without p).isVisible = t.isVisible := by
  rw [isVisible, isVisible, kind?_without]

/-- The visible parts of a node are those that are left of them. -/
theorem visibleChildren_without (t : Tree) :
    (t.without p).visibleChildren =
      (t.visibleChildren.filter (!·.isOf p)).map (without p) := by
  unfold visibleChildren
  rw [children_without]
  generalize t.children = children
  induction children with
  | nil => rfl
  | cons c rest ih =>
    cases hp : c.2.isOf p <;> cases hv : c.2.isVisible <;> simp_all [Function.comp_def]

/-- If all visible parts are left, they are in the same order. -/
theorem visibleChildren_without_of (h : ∀ u ∈ t.visibleChildren, u.isOf p = false) :
    (t.without p).visibleChildren = t.visibleChildren.map (without p) := by
  rw [visibleChildren_without, List.filter_eq_self.2]
  intro u hu
  rw [h u hu]
  rfl

/-- If the first visible part is left, it is the first one. -/
theorem head?_without (h : ∀ u ∈ t.visibleChildren.head?.toList, u.isOf p = false) :
    (t.without p).visibleChildren.head? = t.visibleChildren.head?.map (without p) := by
  rw [visibleChildren_without]
  cases hparts : t.visibleChildren with
  | nil => rfl
  | cons first rest =>
    rw [hparts] at h
    have hfirst : first.isOf p = false := h first (by simp)
    simp [hfirst]

/-- What plays a part is found among the parts that are left if the first to play it is. -/
theorem part?_without {role : Role} (h : ∀ u, t.part? role = some u → u.isOf p = false) :
    (t.without p).part? role = (t.part? role).map (without p) := by
  unfold part? at h ⊢
  rw [children_without, List.find?_map, List.find?_filter]
  generalize t.children = children at h
  induction children with
  | nil => rfl
  | cons c rest ih =>
    by_cases hrole : c.1 = some role
    · have hc : c.2.isOf p = false := h c.2 (by simp [hrole])
      simp [hrole, hc]
    · have hrest := ih (by simpa [hrole] using h)
      simpa [hrole] using hrest

/-- Parts that are found by their order are visible ones. -/
theorem isVisible_of_ordered (hu : u ∈ t.orderedParts) : u.isVisible = true := by
  have hvisible {w : Tree} (hw : u ∈ w.visibleChildren) : u.isVisible = true :=
    (List.mem_filter.1 hw).2
  have hfirst {w : Tree} (hw : u ∈ w.visibleChildren.head?.toList) : u.isVisible = true :=
    hvisible (List.mem_of_mem_head? (Option.mem_toList.1 hw))
  unfold orderedParts at hu
  split at hu
  case h_1 | h_2 => exact hvisible hu
  case h_3 | h_4 =>
    obtain ⟨list, -, hu⟩ := List.mem_flatMap.1 hu
    exact hvisible hu
  case h_5 =>
    obtain ⟨clause, -, hu⟩ := List.mem_flatMap.1 hu
    exact hfirst hu
  case h_11 => cases hu
  all_goals exact hfirst hu

theorem isOf_comment_of_ordered (hu : u ∈ t.orderedParts) : u.isOf (· == .comment) = false := by
  have hvisible := isVisible_of_ordered hu
  rw [Bool.eq_false_iff]
  intro hof
  obtain ⟨k, hk, hcomment⟩ := (Option.any_eq_true _ _).1 hof
  cases eq_of_beq hcomment
  simp [isVisible, hk, Kind.isHidden] at hvisible

/-! ## Parts that are spared -/

/-- The conversion of the tree looks at no node of some sort: none is the first to play a part, none is
among the parts that are found by their order, and no declaration begins with one. -/
structure Spares (p : Kind → Bool) (t : Tree) : Prop where
  plays : ∀ u ∈ t.subtrees, ∀ role w, u.part? role = some w → w.isOf p = false
  ordered : ∀ u ∈ t.subtrees, ∀ w ∈ u.orderedParts, w.isOf p = false
  keyword : ∀ u ∈ t.subtrees, u.isOf Kind.declaresVariables = true →
    ∀ c, u.children.head? = some c → c.2.isOf p = false

namespace Spares

theorem of_subset (h : Spares p t) (hu : u.subtrees ⊆ t.subtrees) : Spares p u :=
  ⟨fun w hw => h.plays w (hu hw), fun w hw => h.ordered w (hu hw), fun w hw => h.keyword w (hu hw)⟩

theorem part (h : Spares p t) {role : Role} (hu : t.part? role = some u) : Spares p u := by
  obtain ⟨c, hc, rfl⟩ := Option.map_eq_some_iff.1 hu
  exact h.of_subset (subset_subtrees (List.mem_of_find?_eq_some hc))

theorem visible (h : Spares p t) (hu : u ∈ t.visibleChildren) : Spares p u := by
  rw [visibleChildren, List.mem_filter, List.mem_map] at hu
  obtain ⟨⟨c, hc, rfl⟩, -⟩ := hu
  exact h.of_subset (subset_subtrees hc)

theorem first (h : Spares p t) (hu : t.visibleChildren.head? = some u) : Spares p u :=
  h.visible (List.mem_of_mem_head? hu)

theorem part?_eq (h : Spares p t) (role : Role) :
    (t.without p).part? role = (t.part? role).map (without p) :=
  part?_without (h.plays t (mem_subtrees_self t) role)

/-- Where all visible parts are found by their order, they are spared. -/
theorem visibleChildren_eq (h : Spares p t) (ht : t.orderedParts = t.visibleChildren) :
    (t.without p).visibleChildren = t.visibleChildren.map (without p) :=
  visibleChildren_without_of (ht ▸ h.ordered t (mem_subtrees_self t))

/-- Where the first visible part is found by its order, it is spared. -/
theorem head?_eq (h : Spares p t) (ht : t.orderedParts = t.visibleChildren.head?.toList) :
    (t.without p).visibleChildren.head? = t.visibleChildren.head?.map (without p) :=
  head?_without (ht ▸ h.ordered t (mem_subtrees_self t))

/-- Where the visible parts of a part are found by their order, they are spared. -/
theorem visibleChildren_inside_eq (h : Spares p t) {role : Role} (hu : t.part? role = some u)
    (ht : t.orderedParts = (t.part? role).toList.flatMap visibleChildren) :
    (u.without p).visibleChildren = u.visibleChildren.map (without p) := by
  refine visibleChildren_without_of fun w hw => h.ordered t (mem_subtrees_self t) w ?_
  simpa [ht, hu] using hw

/-- Where the first visible part of a part is found by its order, it is spared. -/
theorem head?_inside_eq (h : Spares p t) {role : Role} (hu : t.part? role = some u)
    (ht : t.orderedParts = (t.part? role).toList.flatMap fun v => v.visibleChildren.head?.toList) :
    (u.without p).visibleChildren.head? = u.visibleChildren.head?.map (without p) := by
  refine head?_without fun w hw => h.ordered t (mem_subtrees_self t) w ?_
  simpa [ht, hu] using hw

end Spares

/-- Comments that stand between tokens are spared if none is among the parts that are found by their
order. -/
theorem spares_of_between (hp : ∀ k, p k = true → k.isComment = true)
    (ht : t.subtrees.all hasCommentsBetween = true)
    (hordered : ∀ u ∈ t.subtrees, ∀ w ∈ u.orderedParts, w.isOf p = false) : Spares p t := by
  have hbetween (u : Tree) (hu : u ∈ t.subtrees) := List.all_eq_true.1 ht u hu
  simp only [hasCommentsBetween, Bool.and_eq_true] at hbetween
  refine ⟨fun u hu role w hw => isOf_mono hp ?_, hordered, fun u hu hdeclares c hc =>
    isOf_mono hp ?_⟩
  · obtain ⟨child, hchild, rfl⟩ := Option.map_eq_some_iff.1 hw
    have hplays := List.find?_some hchild
    rw [beq_iff_eq] at hplays
    have hnone := List.all_eq_true.1 (hbetween u hu).1 child (List.mem_of_find?_eq_some hchild)
    rw [hplays, Option.all_some, hw, Option.any_some, Bool.not_eq_true'] at hnone
    exact hnone
  · have hnone := (hbetween u hu).2
    rw [hdeclares, hc, Bool.true_and, Option.any_some, Bool.not_eq_true'] at hnone
    exact hnone

/-- Plain comments are spared. -/
theorem spares_comment (ht : t.subtrees.all hasCommentsBetween = true) :
    Spares (· == .comment) t := by
  refine spares_of_between (fun _ => Kind.isComment_of_plain) ht fun u _ w hw => ?_
  exact isOf_comment_of_ordered hw

/-- All comments are spared if none of the other ones is among the parts that are found by their
order. -/
theorem spares_isComment (ht : t.subtrees.all hasCommentsBetween = true)
    (hplain : t.subtrees.all hasPlainOrder = true) : Spares Kind.isComment t := by
  refine spares_of_between (fun _ hk => hk) ht fun u hu w hw => ?_
  have hcomment : w.isOf (· == .comment) = false := isOf_comment_of_ordered hw
  have hother := List.all_eq_true.1 (List.all_eq_true.1 hplain u hu) w hw
  rw [Bool.not_eq_true'] at hother
  unfold isOf at hcomment hother ⊢
  cases hk : w.kind? with
  | none => rfl
  | some k =>
    rw [hk] at hcomment hother
    exact Bool.or_eq_false_iff.2 ⟨hcomment, hother⟩

end Tree

/-! ## The conversion -/

namespace Convert

open Script.Tree
open Standard (headerExpression? headerPart_eq)

variable {α β : Type} {p : Kind → Bool} {t u : Tree} {limit depth : Nat}

theorem required_without (h : Spares p t) (role : Role) :
    required (t.without p) role = (required t role).map (without p) := by
  unfold required
  rw [h.part?_eq, kind?_without]
  cases t.part? role <;> rfl

/-- Going on with a part of the smaller tree is going on with that part of the tree, if it is so for
every part. -/
theorem bind_required_without {f g : Tree → Converted α} {role : Role} (h : Spares p t)
    (hfg : ∀ u, t.part? role = some u → f (u.without p) = g u) :
    (required (t.without p) role >>= f) = (required t role >>= g) := by
  rw [required_without h]
  unfold required
  cases hpart : t.part? role with
  | none => rfl
  | some u => exact hfg u hpart

theorem requiredText_without (h : Spares p t) (role : Role) :
    requiredText (t.without p) role = requiredText t role := by
  unfold requiredText
  rw [required_without h]
  cases required t role with
  | error e => rfl
  | ok u => exact congrArg Except.ok (text_without u)

theorem partText_without (h : Spares p t) (role : Role) :
    ((t.without p).part? role).map text = (t.part? role).map text := by
  rw [h.part?_eq]
  cases t.part? role with
  | none => rfl
  | some u => exact congrArg some (text_without u)

theorem mapM_without {f g : Tree → Converted α} (o : Option Tree)
    (hfg : ∀ u, o = some u → f (u.without p) = g u) :
    (o.map (without p)).mapM f = o.mapM g := by
  cases o with
  | none => rfl
  | some u => exact congrArg (some <$> ·) (hfg u rfl)

theorem optionalPart_without {f g : Tree → Converted (Option Node)} (o : Option Tree)
    (hfg : ∀ u, o = some u → f (u.without p) = g u) :
    optionalPart f (o.map (without p)) = optionalPart g o := by
  cases o with
  | none => rfl
  | some u => exact hfg u rfl

theorem convertAll_without {f : Tree → Converted α} {ts : List Tree}
    (hf : ∀ u ∈ ts, f (u.without p) = f u) :
    convertAll f (ts.map (without p)) = convertAll f ts := by
  induction ts with
  | nil => rfl
  | cons first rest ih =>
    rw [List.forall_mem_cons] at hf
    rw [List.map_cons, convertAll, convertAll, hf.1, ih hf.2]

/-- Parts that are picked out by a test that no node of the sort passes are all left. -/
theorem filter_without {q : Tree → Bool} (hq : ∀ u, q (u.without p) = q u)
    (hp : ∀ u, u.isOf p = true → q u = false) (t : Tree) :
    (t.without p).visibleChildren.filter q = (t.visibleChildren.filter q).map (without p) := by
  rw [visibleChildren_without, List.filter_map, List.filter_filter]
  refine congrArg (List.map _) (List.filter_congr fun u _ => ?_)
  rw [Function.comp_apply, hq]
  cases hu : u.isOf p with
  | false => simp
  | true => simp [hp u hu]

/-- Of what a pattern holds, only a name is looked at. -/
theorem patternParameter_without (h : Spares p t)
    (ht : t.orderedParts = t.visibleChildren.head?.toList) (kind : Kind) :
    patternParameter (t.without p) kind = patternParameter t kind := by
  unfold patternParameter
  simp only [h.part?_eq, h.head?_eq ht]
  cases t.part? .left with
  | some u => cases u <;> rfl
  | none =>
    cases t.visibleChildren.head? with
    | none => rfl
    | some u => cases u <;> rfl

theorem headerExpression?_without (h : Spares p t) :
    headerExpression? (t.without p) = (headerExpression? t).map (without p) := by
  unfold headerExpression?
  rw [kind?_without]
  split
  case h_3 hkind => exact h.head?_eq (by simp [orderedParts, hkind])
  all_goals rfl

theorem spares_headerExpression (h : Spares p t) (hu : headerExpression? t = some u) :
    Spares p u := by
  unfold headerExpression? at hu
  split at hu
  case h_3 => exact h.first hu
  case h_4 => cases hu; exact h
  all_goals cases hu

/-- The keyword of a declaration is its first part. -/
theorem keyword_without (h : Spares p t) (ht : t.isOf Kind.declaresVariables = true) :
    (t.without p).children.head?.map (·.2.text) = t.children.head?.map (·.2.text) := by
  have hfirst := h.keyword t (mem_subtrees_self t) ht
  rw [children_without]
  cases hparts : t.children with
  | nil => rfl
  | cons c rest =>
    have hc : c.2.isOf p = false := hfirst c (by rw [hparts]; rfl)
    simp [hc]

section Comments

variable (hp : ∀ k, p k = true → k.isComment = true)

include hp

theorem kind?_of_isOf (hu : u.isOf p = true) :
    u.kind? = some .comment ∨ u.kind? = some .htmlComment := by
  obtain ⟨k, hk, hpk⟩ := (Option.any_eq_true p u.kind?).1 hu
  simpa [hk, Kind.isComment] using hp k hpk

/-- No comment is among the declarators of a declaration. -/
theorem declarators_without (t : Tree) :
    (t.without p).visibleChildren.filter (·.kind? == some .variableDeclarator) =
      (t.visibleChildren.filter (·.kind? == some .variableDeclarator)).map (without p) := by
  refine filter_without (fun u => by rw [kind?_without]) (fun u hu => ?_) t
  rcases kind?_of_isOf hp hu with hk | hk <;> rw [hk] <;> rfl

/-- No comment is among the statements in a construct without a case of its own. -/
theorem statements_without (t : Tree) :
    (t.without p).visibleChildren.filter holdsStatements =
      (t.visibleChildren.filter holdsStatements).map (without p) := by
  refine filter_without (fun u => by unfold holdsStatements; rw [kind?_without]) (fun u hu => ?_) t
  unfold holdsStatements
  rcases kind?_of_isOf hp hu with hk | hk <;> rw [hk] <;> rfl

/-- Comments among the fragments of a string add nothing to its value. -/
theorem stringValue_without (t : Tree) : stringValue (t.without p) = stringValue t := by
  unfold stringValue
  rw [visibleChildren_without, List.flatMap_map]
  congr 1
  induction t.visibleChildren with
  | nil => rfl
  | cons u rest ih =>
    rw [List.filter_cons, List.flatMap_cons, ← ih]
    cases hu : u.isOf p with
    | true =>
      have hkind := kind?_of_isOf hp hu
      cases u with
      | leaf k s => rcases hkind with hk | hk <;> cases hk <;> rfl
      | token s | node k children => rfl
    | false => cases u <;> rfl

theorem expressionWith_without {self : Tree → Converted Node}
    (hself : ∀ u, Spares p u → self (u.without p) = self u) (h : Spares p t) :
    expressionWith self (t.without p) = expressionWith self t := by
  have hpart (role : Role) :
      (required (t.without p) role >>= self) = (required t role >>= self) :=
    bind_required_without h fun u hu => hself u (h.part hu)
  unfold expressionWith
  simp only [kind?_without, text_without, requiredText_without h, partText_without h,
    stringValue_without hp, hpart]
  split
  -- Parentheses
  case h_1 hkind =>
    rw [h.head?_eq (by simp [orderedParts, hkind])]
    cases hinner : t.visibleChildren.head? with
    | none => rfl
    | some inner => exact hself inner (h.first hinner)
  -- Everything else goes by the parts that are played
  all_goals rfl

theorem expression_without (h : Spares p t) :
    expression limit depth (t.without p) = expression limit depth t := by
  induction depth generalizing t with
  | zero => rfl
  | succ depth ih => exact expressionWith_without hp (fun u hu => ih hu) h

theorem parameter_without (h : Spares p t) :
    parameter limit depth (t.without p) = parameter limit depth t := by
  unfold parameter
  rw [kind?_without]
  split
  case h_1 hkind | h_2 hkind =>
    exact congrArg Except.ok (patternParameter_without h (by simp [orderedParts, hkind]) _)
  case h_3 => exact expression_without hp h

theorem declarator_without (h : Spares p t) :
    declarator limit depth (t.without p) = declarator limit depth t := by
  cases depth with
  | zero => rfl
  | succ depth =>
    have hexpression (u : Tree) (hu : Spares p u) :
        expression limit depth (u.without p) = expression limit depth u := expression_without hp hu
    unfold declarator
    refine bind_required_without h fun name hname => ?_
    rw [hexpression name (h.part hname), h.part?_eq,
      mapM_without _ fun u hu => hexpression u (h.part hu)]

theorem headerPart_without (h : Spares p t) :
    headerPart limit depth (t.without p) = headerPart limit depth t := by
  rw [headerPart_eq, headerPart_eq, headerExpression?_without h]
  exact mapM_without _ fun u hu => expression_without hp (spares_headerExpression h hu)

theorem initializer_without {self : Tree → Converted Node} (hself : self (t.without p) = self t)
    (h : Spares p t) :
    initializer self limit depth (t.without p) = initializer self limit depth t := by
  unfold initializer
  rw [kind?_without, hself, headerPart_without hp h]

theorem statement_without (h : Spares p t) :
    statement limit depth (t.without p) = statement limit depth t := by
  induction depth generalizing t with
  | zero => rfl
  | succ depth ih =>
    have hexpression (u : Tree) (hu : Spares p u) :
        expression limit depth (u.without p) = expression limit depth u := expression_without hp hu
    have hstatement (u : Tree) (hu : Spares p u) :
        statement limit depth (u.without p) = statement limit depth u := ih hu
    unfold statement
    simp only [kind?_without]
    split
    -- Functions and generators
    case h_1 hkind | h_2 hkind =>
      refine bind_required_without h fun name hname => ?_
      rw [hexpression name (h.part hname)]
      refine bind_congr fun id => bind_required_without h fun list hlist => ?_
      rw [h.visibleChildren_inside_eq hlist (by simp [orderedParts, hkind]),
        convertAll_without fun u hu => parameter_without hp ((h.part hlist).visible hu)]
      refine bind_congr fun params => bind_required_without h fun inner hinner => ?_
      rw [hstatement inner (h.part hinner)]
    -- Blocks
    case h_3 hkind =>
      rw [h.visibleChildren_eq (by simp [orderedParts, hkind]),
        convertAll_without fun u hu => hstatement u (h.visible hu)]
    -- Declarations of variables
    case h_4 hkind | h_5 hkind =>
      rw [keyword_without h (by simp [isOf, hkind, Kind.declaresVariables]), declarators_without hp,
        convertAll_without fun u hu =>
          declarator_without hp (h.visible (List.mem_of_mem_filter hu))]
    -- Expressions
    case h_6 hkind =>
      rw [h.head?_eq (by simp [orderedParts, hkind])]
      cases hinner : t.visibleChildren.head? with
      | none => rfl
      | some inner => simp only [Option.map_some, hexpression inner (h.first hinner)]
    -- `while`
    case h_7 =>
      refine bind_required_without h fun condition hcondition => ?_
      rw [hexpression condition (h.part hcondition)]
      refine bind_congr fun test => bind_required_without h fun inner hinner => ?_
      rw [hstatement inner (h.part hinner)]
    -- `if`
    case h_8 hkind =>
      refine bind_required_without h fun condition hcondition => ?_
      rw [hexpression condition (h.part hcondition)]
      refine bind_congr fun test => bind_required_without h fun consequence hconsequence => ?_
      rw [hstatement consequence (h.part hconsequence), h.part?_eq]
      refine bind_congr fun consequent => ?_
      rw [mapM_without _ fun clause hclause => ?_]
      rw [h.head?_inside_eq hclause (by simp [orderedParts, hkind])]
      cases hfirst : clause.visibleChildren.head? with
      | none => rfl
      | some branch => exact hstatement branch ((h.part hclause).first hfirst)
    -- `for`
    case h_9 =>
      rw [h.part?_eq, h.part?_eq, h.part?_eq, mapM_without _ fun u hu => hexpression u (h.part hu),
        optionalPart_without _ fun u hu => headerPart_without hp (h.part hu),
        optionalPart_without _ fun u hu =>
          initializer_without hp (hstatement u (h.part hu)) (h.part hu)]
      refine bind_congr fun init => bind_congr fun test => bind_congr fun update => ?_
      refine bind_required_without h fun inner hinner => ?_
      rw [hstatement inner (h.part hinner)]
    -- `return`
    case h_10 hkind =>
      rw [h.head?_eq (by simp [orderedParts, hkind]),
        mapM_without _ fun u hu => hexpression u (h.first hu)]
    -- Statements without a case of their own
    case h_11 =>
      rw [statements_without hp,
        convertAll_without fun u hu => hstatement u (h.visible (List.mem_of_mem_filter hu))]
    case h_12 => rfl

theorem toProgram_without (h : Spares p t) (hroot : t.kind? = some .program) (limit : Nat) :
    toProgram limit (t.without p) = toProgram limit t := by
  unfold toProgram
  rw [h.visibleChildren_eq (by simp [orderedParts, hroot]),
    convertAll_without fun u hu => statement_without hp (h.visible hu)]

end Comments

end Convert

/-! ## Scripts -/

/-- A script may lose its plain comments, and its other ones too where none of them is among the parts
that are found by their order. With any limit it is converted to the same program, or fails in the same
way. -/
theorem toProgram_without_comments {t : Tree} (hroot : t.kind? = some .program)
    (ht : t.subtrees.all Tree.hasCommentsBetween = true) (limit : Nat) :
    Convert.toProgram limit (t.without (· == .comment)) = Convert.toProgram limit t ∧
      (t.subtrees.all Tree.hasPlainOrder = true →
        Convert.toProgram limit (t.without Kind.isComment) = Convert.toProgram limit t) := by
  constructor
  · have hspares := Tree.spares_comment ht
    exact Convert.toProgram_without (fun _ => Kind.isComment_of_plain) hspares hroot limit
  · intro hplain
    have hspares := Tree.spares_isComment ht hplain
    exact Convert.toProgram_without (fun _ hk => hk) hspares hroot limit

/-- The tree of a loop with comments, the second of them in the manner of a web page:
`while (a) /* one */ { if (a) <!-- two` and `return // three` and `}` on three lines. -/
def commentedLoop : Tree :=
  .node .program [(none, .node .whileStatement [(none, .token "while"),
    (some .condition, .node .parenthesizedExpression [(none, .token "("),
      (none, .leaf .identifier "a"), (none, .token ")")]),
    (none, .leaf .comment "/* one */"),
    (some .body, .node .statementBlock [(none, .token "\x7b"),
      (none, .node .ifStatement [(none, .token "if"),
        (some .condition, .node .parenthesizedExpression [(none, .token "("),
          (none, .leaf .identifier "a"), (none, .token ")")]),
        (none, .leaf .htmlComment "<!-- two"),
        (some .consequence, .node .returnStatement [(none, .token "return")])]),
      (none, .leaf .comment "// three"),
      (none, .token "\x7d")])])]

/-- The loop without its comments. -/
def plainLoop : Tree :=
  .node .program [(none, .node .whileStatement [(none, .token "while"),
    (some .condition, .node .parenthesizedExpression [(none, .token "("),
      (none, .leaf .identifier "a"), (none, .token ")")]),
    (some .body, .node .statementBlock [(none, .token "\x7b"),
      (none, .node .ifStatement [(none, .token "if"),
        (some .condition, .node .parenthesizedExpression [(none, .token "("),
          (none, .leaf .identifier "a"), (none, .token ")")]),
        (some .consequence, .node .returnStatement [(none, .token "return")])]),
      (none, .token "\x7d")])])]

/-- The loop loses all of its comments and is converted to the same program. -/
theorem toProgram_without_comments_loop :
    commentedLoop.kind? = some .program ∧
      commentedLoop.subtrees.all Tree.hasCommentsBetween = true ∧
      commentedLoop.subtrees.all Tree.hasPlainOrder = true ∧
      commentedLoop.without Kind.isComment = plainLoop ∧
      Convert.toProgram 400 plainLoop = Convert.toProgram 400 commentedLoop := by
  have hbetween : commentedLoop.subtrees.all Tree.hasCommentsBetween = true := by decide
  have hplain : commentedLoop.subtrees.all Tree.hasPlainOrder = true := by decide
  have hwithout : commentedLoop.without Kind.isComment = plainLoop := rfl
  refine ⟨rfl, hbetween, hplain, hwithout, ?_⟩
  rw [← hwithout]
  exact (toProgram_without_comments rfl hbetween 400).2 hplain

/-- The tree of `x = y` with some parts in front. -/
def assignmentBelow (front : List Child) : Tree :=
  .node .program (front ++ [(none, .node .expressionStatement [
    (none, .node .assignmentExpression [(some .left, .leaf .identifier "x"), (none, .token "="),
      (some .right, .leaf .identifier "y")])])])

/-- The statement `x = y`. -/
def assignedName : Node := .expression (.assignment "=" (.identifier "x") (.identifier "y"))

theorem outline_assignedName : (Node.program [assignedName]).outline =
    [.named 1 "AssignmentExpression" "x" (some (.text "y"))] := by
  rw [Node.outline_program]
  simp [assignedName, Node.walkProgram, Node.walk, Node.isAssignment, Node.render, Walk.andThen,
    Walk.advance, Walk.emit, Walk.idle, Node.renderText_identifier]

/-- A comment in the manner of a web page takes a line of the outline where it stands among
statements: `x = y` is on the second line below `<!-- hello`, and on the first line without it. -/
theorem comment_takes_line :
    (assignmentBelow [(none, .leaf .htmlComment "<!-- hello")]).subtrees.all
        Tree.hasCommentsBetween = true ∧
      (assignmentBelow [(none, .leaf .htmlComment "<!-- hello")]).without Kind.isComment =
        assignmentBelow [] ∧
      Node.outline <$> Convert.toProgram 400
          (assignmentBelow [(none, .leaf .htmlComment "<!-- hello")]) =
        .ok [.named 2 "AssignmentExpression" "x" (some (.text "y"))] ∧
      Node.outline <$> Convert.toProgram 400 (assignmentBelow []) =
        .ok [.named 1 "AssignmentExpression" "x" (some (.text "y"))] := by
  have hbelow : Convert.toProgram 400 (assignmentBelow [(none, .leaf .htmlComment "<!-- hello")]) =
      .ok (.program ([.unsupported "HtmlComment" none []] ++ [assignedName])) := rfl
  have halone : Convert.toProgram 400 (assignmentBelow []) = .ok (.program [assignedName]) := rfl
  refine ⟨by decide, rfl, ?_, ?_⟩
  · have hcomment : (Node.program [.unsupported "HtmlComment" none []]).outline = [] := by
      rw [Node.outline_program]
      rfl
    rw [hbelow, Except.map_ok, Node.outline_append, hcomment, outline_assignedName]
    rfl
  · rw [halone, Except.map_ok, outline_assignedName]

end Script

end ScriptOutline
