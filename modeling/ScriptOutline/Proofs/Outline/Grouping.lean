import Mathlib.Tactic.Common
import ScriptOutline.Proofs.Outline.Rendering

/-!
# Which expressions stand in parentheses

The rule of rendering, stated on the tree alone: the text of an expression is put together from the
texts of its parts, and a binary or logical expression stands in parentheses if at least two of the
expressions around it are binary or logical, whatever else is around it. What is around an
expression is kept as a list of nodes (`Node.composed`), so that the rule counts expressions and
knows of no depth.

The loop carries a number along instead. It is the number of binary and logical expressions around
the node at hand, and that is all the rule asks about (`rendered_eq_composed`).
-/

namespace ScriptOutline

namespace Node

/-- Whether the node is a binary or a logical expression. -/
def isOperation : Node → Bool
  | .binary .. | .logical .. => true
  | _ => false

/-- The text of an operation with the texts of its sides, given the expressions around it. -/
def operation (around : List Node) (operator left right : String) : String :=
  let text := left ++ " " ++ operator ++ " " ++ right
  if 2 ≤ around.countP isOperation then "(" ++ text ++ ")" else text

/-- The text of an expression, given the expressions around it. -/
def composed (around : List Node) : Node → String
  | .identifier name => name
  | .literal value => value.shown
  | .unsupported _ name _ => name.getD ""
  | .member object property computed =>
    let inside := .member object property computed :: around
    object.composed inside ++ "[" ++ property.composed inside ++ "]"
  | .unary operator argument =>
    operator ++ argument.composed (.unary operator argument :: around)
  | .binary operator left right =>
    let inside := .binary operator left right :: around
    operation around operator (left.composed inside) (right.composed inside)
  | .logical operator left right =>
    let inside := .logical operator left right :: around
    operation around operator (left.composed inside) (right.composed inside)
  -- Statements and assignments are no expressions that a cell shows.
  | .program _ | .function .. | .block _ | .variables .. | .declarator .. | .expression _
  | .assignment .. | .while .. | .if .. | .for .. | .return _ => ""

/-- Parentheses by the expressions around are parentheses by their number. -/
theorem toList_operation (around : List Node) (operator left right : String) :
    (operation around operator left right).toList =
      Render.grouped (around.countP isOperation)
        (left.toList ++ ' ' :: (operator.toList ++ ' ' :: right.toList)) := by
  have htext : (left ++ " " ++ operator ++ " " ++ right).toList =
      left.toList ++ ' ' :: (operator.toList ++ ' ' :: right.toList) := by
    simp only [String.toList_append, List.append_assoc]
    rfl
  unfold operation Render.grouped Render.groupDepth
  by_cases hdeep : 2 ≤ around.countP isOperation
  · rw [if_pos hdeep, if_pos hdeep, ← htext, String.toList_append, String.toList_append,
      List.append_assoc]
    rfl
  · rw [if_neg hdeep, if_neg hdeep, htext]

/-- The number that the loop carries along is that of the operations around the node. -/
theorem rendered_eq_composed : ∀ (n : Node) (around : List Node),
    n.rendered (around.countP isOperation) = (n.composed around).toList
  | .identifier name, around => rfl
  | .literal value, around => rfl
  | .unsupported kind none children, around => rfl
  | .unsupported kind (some name) children, around => rfl
  | .member object property computed, around => by
    -- What is inside a member expression has no more operations around it.
    have hobject := rendered_eq_composed object (.member object property computed :: around)
    have hproperty := rendered_eq_composed property (.member object property computed :: around)
    rw [List.countP_cons_of_neg Bool.false_ne_true] at hobject hproperty
    rw [rendered, composed, hobject, hproperty]
    simp only [String.toList_append, List.append_assoc]
    rfl
  | .unary operator argument, around => by
    have hargument := rendered_eq_composed argument (.unary operator argument :: around)
    rw [List.countP_cons_of_neg Bool.false_ne_true] at hargument
    rw [rendered, composed, hargument, String.toList_append]
  | .binary operator left right, around => by
    have hleft := rendered_eq_composed left (.binary operator left right :: around)
    have hright := rendered_eq_composed right (.binary operator left right :: around)
    rw [List.countP_cons_of_pos rfl] at hleft hright
    rw [rendered, composed, toList_operation, hleft, hright]
  | .logical operator left right, around => by
    have hleft := rendered_eq_composed left (.logical operator left right :: around)
    have hright := rendered_eq_composed right (.logical operator left right :: around)
    rw [List.countP_cons_of_pos rfl] at hleft hright
    rw [rendered, composed, toList_operation, hleft, hright]
  | .program _, around | .function .., around | .block _, around | .variables .., around
  | .declarator .., around | .expression _, around | .assignment .., around | .while .., around
  | .if .., around | .for .., around | .return _, around => rfl

/-- A cell shows a literal as it shows its text. -/
theorem toText_render (n : Node) : n.render.toText = n.renderText := by
  cases n with
  | literal value =>
    have htext : (literal value).renderText.toList = value.shown.toList := renderText_toList _
    exact (String.toList_inj.1 htext).symm
  | _ => rfl

/-- An expression is rendered as the rule says with nothing around it, and a cell shows that. -/
theorem renderText_eq_composed (n : Node) :
    n.renderText = n.composed [] ∧ n.render.toText = n.renderText := by
  refine ⟨?_, toText_render n⟩
  have htext : n.renderText.toList = (n.composed []).toList := by
    rw [renderText_toList, ← rendered_eq_composed n [], List.countP_nil]
  exact String.toList_inj.1 htext

-- `a + !(b * (c - d))`: the negation does not count, so only the subtraction is put in parentheses.
example :
    (binary "+" (identifier "a") (unary "!" (binary "*" (identifier "b")
      (binary "-" (identifier "c") (identifier "d"))))).composed [] = "a + !b * (c - d)" := by
  decide

end Node

end ScriptOutline
