import ScriptOutline.Proofs.Outline.Congruence
import ScriptOutline.Proofs.Outline.Rendering
import ScriptOutline.Proofs.Syntax.Numbers

/-!
# Numbers that an outline shows

Some numbers of a tree are shown in its outline, in the text of a cell or as the value of a cell, and
others are not: those in the first and the last part of a loop's head, in statements that leave no
record, in expressions that are shown by a name. Only the first kind matters. If other literals of the
same values are put in the place of the numbers that are shown, and any literals in the place of the
others, the records are the same up to the sign of zero.
-/

namespace ScriptOutline

namespace Node

/-- The numbers in the text of an expression. -/
def textNumbers : Node → List Double
  | .literal (.number d) => [d]
  | .member object property _ => object.textNumbers ++ property.textNumbers
  | .binary _ left right => left.textNumbers ++ right.textNumbers
  | .logical _ left right => left.textNumbers ++ right.textNumbers
  | .unary _ argument => argument.textNumbers
  | _ => []

/-- The numbers in the text of an expression, if there is one. -/
def optionTextNumbers (o : Option Node) : List Double := (o.map textNumbers).getD []

mutual

/-- The numbers that the outline of a tree shows. -/
def shownNumbers : Node → List Double
  | .program body => shownNumbersIn body
  | .function id params body =>
    id.textNumbers ++ params.flatMap textNumbers ++ body.shownNumbers
  | .block body => shownNumbersIn body
  | .variables _ declarations => shownNumbersIn declarations
  | .declarator id init => id.textNumbers ++ optionTextNumbers init
  | .expression e => if e.isAssignment then e.shownNumbers else []
  | .assignment _ left right => left.textNumbers ++ right.textNumbers
  | .while test body => test.textNumbers ++ body.shownNumbers
  | .if test consequent alternate =>
    test.textNumbers ++ consequent.shownNumbers ++ optionShownNumbers alternate
  | .for _ test _ body => optionTextNumbers test ++ body.shownNumbers
  | .return argument => optionTextNumbers argument
  | .unsupported _ _ children => shownNumbersIn children
  | .member .. | .binary .. | .logical .. | .unary .. | .literal _ | .identifier _ => []

/-- The numbers that are shown of a list of trees. -/
def shownNumbersIn : List Node → List Double
  | [] => []
  | n :: rest => n.shownNumbers ++ shownNumbersIn rest

/-- The numbers that are shown of a tree that may be absent. -/
def optionShownNumbers : Option Node → List Double
  | none => []
  | some n => n.shownNumbers

end

/-- The literals that are put in the place of these numbers have their values. -/
def Keeps (f : Double → Literal) (numbers : List Double) : Prop :=
  ∀ d ∈ numbers, (f d).sameValue (.number d) = true

variable {f : Double → Literal}

@[simp] theorem keeps_append {as bs : List Double} :
    Keeps f (as ++ bs) ↔ Keeps f as ∧ Keeps f bs :=
  List.forall_mem_append

/-! ## Texts -/

theorem rendered_renumber : ∀ n : Node, Keeps f n.textNumbers →
    ∀ depth, (n.renumber f).rendered depth = n.rendered depth
  | .literal (.number d), h, depth => by
    rw [renumber, rendered, rendered, Literal.renumber,
      Literal.shown_of_sameValue (h d List.mem_cons_self)]
  | .literal (.string _), _, _ | .literal (.boolean _), _, _ | .literal .null, _, _
  | .literal (.regexp _), _, _ | .identifier _, _, _ => rfl
  | .member object property computed, h, depth => by
    rw [textNumbers, keeps_append] at h
    rw [renumber, rendered, rendered, rendered_renumber object h.1, rendered_renumber property h.2]
  | .unary operator argument, h, depth => by
    rw [renumber, rendered, rendered, rendered_renumber argument h]
  | .binary operator left right, h, depth => by
    rw [textNumbers, keeps_append] at h
    rw [renumber, rendered, rendered, rendered_renumber left h.1, rendered_renumber right h.2]
  | .logical operator left right, h, depth => by
    rw [textNumbers, keeps_append] at h
    rw [renumber, rendered, rendered, rendered_renumber left h.1, rendered_renumber right h.2]
  | .unsupported kind name children, _, _ => by cases name <;> rfl
  | .program _, _, _ | .function .., _, _ | .block _, _, _ | .variables .., _, _
  | .declarator .., _, _ | .expression _, _, _ | .assignment .., _, _ | .while .., _, _
  | .if .., _, _ | .for .., _, _ | .return _, _, _ => rfl

theorem renderText_renumber {n : Node} (h : Keeps f n.textNumbers) :
    (n.renumber f).renderText = n.renderText := by
  rw [← String.toList_inj, renderText_toList, renderText_toList, rendered_renumber n h]

/-- What a cell shows, literals compared by their values. -/
theorem render_renumber {n : Node} (h : Keeps f n.textNumbers) :
    (n.renumber f).render.sameValue n.render = true := by
  have htext := renderText_renumber h
  cases n with
  | literal value =>
    cases value with
    | number d => exact h d List.mem_cons_self
    | _ => simp [renumber, Literal.renumber, render, Shown.sameValue, Literal.sameValue]
  | _ => simp_all [renumber, render, Shown.sameValue]

theorem option_renderText_renumber {o : Option Node} (h : Keeps f (optionTextNumbers o)) :
    (renumberOption f o).map renderText = o.map renderText := by
  cases o with
  | none => rfl
  | some n => exact congrArg some (renderText_renumber h)

theorem renderOption_renumber {o : Option Node} (h : Keeps f (optionTextNumbers o)) :
    (renderOption (renumberOption f o)).sameValue (renderOption o) = true := by
  cases o with
  | none => rfl
  | some n => exact render_renumber h

/-! ## Records -/

open Walk

/-- The records of parameters. -/
theorem sameValues_params_renumber (line : Nat) {params : List Node}
    (h : Keeps f (params.flatMap textNumbers)) :
    Record.sameValues
      ((renumberAll f params).map fun p => .named line p.typeName p.renderText none)
      (params.map fun p => .named line p.typeName p.renderText none) = true := by
  induction params with
  | nil => rfl
  | cons p rest ih =>
    rw [List.flatMap_cons, keeps_append] at h
    rw [renumberAll, List.map_cons, List.map_cons, typeName_renumber, renderText_renumber h.1]
    simp only [Record.sameValues, Bool.and_eq_true]
    exact ⟨Record.sameValue_bare rfl, ih h.2⟩

mutual

/-- The walk finds the same records. -/
theorem walk_renumber : ∀ n : Node, Keeps f n.shownNumbers → Same (n.renumber f).walk n.walk
  | .program body, h => walkProgram_renumber body h
  | .function id params body, h => by
    simp only [shownNumbers, keeps_append] at h
    rw [renumber, walk, walk, renderText_renumber h.1.1]
    refine (same_emit fun line => ?_).andThen (same_advance.andThen (walk_renumber body h.2))
    simp only [Record.sameValues, Bool.and_eq_true]
    exact ⟨Record.sameValue_bare rfl, sameValues_params_renumber line h.1.2⟩
  | .block body, h => walkAll_renumber body h
  | .variables keyword declarations, h => (walkAll_renumber declarations h).andThen same_advance
  | .declarator id init, h => by
    simp only [shownNumbers, keeps_append] at h
    rw [renumber, walk, walk, renderText_renumber h.1]
    refine same_emit fun line => Record.sameValues_singleton ?_
    cases init with
    | none => exact Record.sameValue_bare rfl
    | some e => simpa [Record.sameValue, Record.named, renumberOption] using render_renumber h.2
  | .expression e, h => by
    rw [shownNumbers] at h
    rw [renumber, walk, walk, isAssignment_renumber]
    refine Same.andThen ?_ same_advance
    split
    · next hassignment =>
      rw [if_pos hassignment] at h
      exact walk_renumber e h
    · exact same_idle
  | .assignment operator left right, h => by
    simp only [shownNumbers, keeps_append] at h
    rw [renumber, walk, walk, renderText_renumber h.1]
    refine same_emit fun line => Record.sameValues_singleton ?_
    simpa [Record.sameValue, Record.named] using render_renumber h.2
  | .while test body, h => by
    simp only [shownNumbers, keeps_append] at h
    rw [renumber, walk, walk, renderText_renumber h.1]
    exact (same_emit fun line => Record.sameValues_singleton (Record.sameValue_bare rfl)).andThen
      (same_advance.andThen ((walk_renumber body h.2).andThen same_advance))
  | .if test consequent alternate, h => by
    simp only [shownNumbers, keeps_append] at h
    rw [renumber, walk, walk, renderText_renumber h.1.1]
    exact (same_emit fun line => Record.sameValues_singleton (Record.sameValue_bare rfl)).andThen
      (same_advance.andThen ((walk_renumber consequent h.1.2).andThen
        ((walkOption_renumber alternate h.2).andThen same_advance)))
  | .for init test update body, h => by
    simp only [shownNumbers, keeps_append] at h
    rw [renumber, walk, walk, option_renderText_renumber h.1]
    exact (same_emit fun line => Record.sameValues_singleton (Record.sameValue_bare rfl)).andThen
      (same_advance.andThen ((walk_renumber body h.2).andThen same_advance))
  | .return argument, h => by
    rw [renumber, walk, walk]
    refine same_emit fun line => Record.sameValues_singleton ?_
    simpa [Record.sameValue, Record.valued] using renderOption_renumber h
  | .unsupported kind name children, h => walkAll_renumber children h
  | .member .., _ | .binary .., _ | .logical .., _ | .unary .., _ | .literal _, _
  | .identifier _, _ => same_idle

theorem walkAll_renumber : ∀ nodes : List Node, Keeps f (shownNumbersIn nodes) →
    Same (walkAll (renumberAll f nodes)) (walkAll nodes)
  | [], _ => same_idle
  | n :: rest, h => by
    rw [shownNumbersIn, keeps_append] at h
    rw [renumberAll, walkAll, walkAll]
    exact (walk_renumber n h.1).andThen (walkAll_renumber rest h.2)

theorem walkProgram_renumber : ∀ nodes : List Node, Keeps f (shownNumbersIn nodes) →
    Same (walkProgram (renumberAll f nodes)) (walkProgram nodes)
  | [], _ => same_idle
  | n :: rest, h => by
    rw [shownNumbersIn, keeps_append] at h
    rw [renumberAll, walkProgram, walkProgram]
    exact same_advance.andThen ((walk_renumber n h.1).andThen (walkProgram_renumber rest h.2))

theorem walkOption_renumber : ∀ o : Option Node, Keeps f (optionShownNumbers o) →
    Same (walkOption (renumberOption f o)) (walkOption o)
  | none, _ => same_idle
  | some n, h => walk_renumber n h

end

/-- With literals of the same values in the place of the numbers that are shown, the outline has the
same records. -/
theorem outline_renumber {n : Node} (h : Keeps f n.shownNumbers) :
    Record.sameValues (n.renumber f).outline n.outline = true := by
  rw [outline, outline, Outline.run_eq_walkTasks, Outline.run_eq_walkTasks]
  exact ((walk_renumber n h).andThen same_idle 0).1

end Node

end ScriptOutline
