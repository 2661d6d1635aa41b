import ScriptOutline.Outline.Render

/-!
# Rendering by recursion

An expression is written on a stack of steps. Here the same text is put together from the texts of
the parts of the expression. A stack of steps stands for the texts of its steps one after the other,
and that is what the loop writes.
-/

namespace ScriptOutline

namespace Render

/-- The text of a binary expression, in parentheses from some depth on. -/
def grouped (depth : Nat) (text : List Char) : List Char :=
  if groupDepth ≤ depth then '(' :: (text ++ [')']) else text

end Render

open Render

namespace Node

/-- The text of an expression with a number of binary expressions around it. -/
def rendered : Node → Nat → List Char
  | .identifier name, _ => name.toList
  | .literal value, _ => value.shown.toList
  | .member object property _, depth =>
    object.rendered depth ++ '[' :: (property.rendered depth ++ [']'])
  | .unary operator argument, depth => operator.toList ++ argument.rendered depth
  | .binary operator left right, depth =>
    grouped depth (left.rendered (depth + 1) ++
      ' ' :: (operator.toList ++ ' ' :: right.rendered (depth + 1)))
  | .logical operator left right, depth =>
    grouped depth (left.rendered (depth + 1) ++
      ' ' :: (operator.toList ++ ' ' :: right.rendered (depth + 1)))
  | .unsupported _ (some name) _, _ => name.toList
  | _, _ => []

end Node

namespace Render

/-- The text that a step stands for. -/
def Step.rendered : Step → List Char
  | .visit node depth => node.rendered depth
  | .text value => value.toList

theorem rendered_binarySteps (operator : String) (left right : Node) (depth : Nat) :
    (binarySteps operator left right depth).flatMap Step.rendered =
      grouped depth (left.rendered (depth + 1) ++
        ' ' :: (operator.toList ++ ' ' :: right.rendered (depth + 1))) := by
  unfold binarySteps grouped
  split <;> simp [Step.rendered]

/-- The steps of a node stand for the text of the node. -/
theorem rendered_steps (node : Node) (depth : Nat) :
    (steps node depth).flatMap Step.rendered = node.rendered depth := by
  cases node with
  | binary operator left right => exact rendered_binarySteps operator left right depth
  | logical operator left right => exact rendered_binarySteps operator left right depth
  | unsupported kind name children => cases name <;> simp [steps, Node.rendered, Step.rendered]
  | _ => simp [steps, Node.rendered, Step.rendered]

/-- The loop writes what the steps of the stack stand for. -/
theorem run_eq_rendered (stack : List Step) : run stack = stack.flatMap Step.rendered := by
  fun_induction run stack with
  | case1 => rfl
  | case2 value rest ih => rw [ih, List.flatMap_cons, Step.rendered]
  | case3 node depth rest ih =>
    rw [ih, List.flatMap_append, rendered_steps, List.flatMap_cons, Step.rendered]

end Render

/-- Rendering an expression puts the texts of its parts together. -/
theorem Node.renderText_toList (node : Node) : node.renderText.toList = node.rendered 0 := by
  rw [renderText, String.toList_ofList, run_eq_rendered, List.flatMap_singleton, Step.rendered]

theorem Node.renderText_identifier (name : String) : (Node.identifier name).renderText = name := by
  rw [← String.toList_inj, renderText_toList]
  rfl

end ScriptOutline
