import ScriptOutline.Syntax.Node
import ScriptOutline.Outline.Record

/-!
# Rendering expressions

An expression is rendered as the one value that an outline cell shows. Binary expressions are
grouped by depth and not by precedence: one with two or more binary expressions around it, inside
the expression being rendered, stands in parentheses.

Rendering runs on an explicit stack of steps, so deep expressions need no deep recursion.
-/

namespace ScriptOutline

namespace Render

/-- What is still to be written. -/
inductive Step where
  /-- A node with the given number of binary expressions around it. -/
  | visit (node : Node) (depth : Nat)
  | text (value : String)

/-- The number of enclosing binary expressions from which on a binary expression is put in
parentheses. -/
def groupDepth : Nat := 2

/-- The steps for a binary expression. -/
def binarySteps (operator : String) (left right : Node) (depth : Nat) : List Step :=
  let inside : List Step :=
    [.visit left (depth + 1), .text " ", .text operator, .text " ", .visit right (depth + 1)]
  if groupDepth ≤ depth then .text "(" :: (inside ++ [.text ")"]) else inside

/-- The steps that a node is made of, in reading order. Statements and assignments write
nothing. -/
def steps (node : Node) (depth : Nat) : List Step :=
  match node with
  | .identifier name => [.text name]
  | .literal value => [.text value.shown]
  | .member object property _ =>
    [.visit object depth, .text "[", .visit property depth, .text "]"]
  | .unary operator argument => [.text operator, .visit argument depth]
  | .binary operator left right => binarySteps operator left right depth
  | .logical operator left right => binarySteps operator left right depth
  | .unsupported _ (some name) _ => [.text name]
  | _ => []

/-- The number of steps that a step can still lead to. -/
def Step.weight : Step → Nat
  | .visit node _ => 8 * node.size
  | .text _ => 1

/-- The weight of a stack of steps. -/
def weight : List Step → Nat
  | [] => 0
  | s :: rest => s.weight + weight rest

theorem weight_append (a b : List Step) : weight (a ++ b) = weight a + weight b := by
  induction a with
  | nil => simp [weight]
  | cons s a ih => simp [weight, ih]; omega

theorem weight_binarySteps (operator : String) (left right : Node) (depth : Nat) :
    weight (binarySteps operator left right depth) ≤ 8 * left.size + 8 * right.size + 5 := by
  unfold binarySteps
  split <;> simp [weight, Step.weight] <;> omega

/-- The steps of a node weigh less than the node. -/
theorem weight_steps_lt (node : Node) (depth : Nat) :
    weight (steps node depth) < (Step.visit node depth).weight := by
  have h := node.size_pos
  unfold steps
  split
  case h_5 operator left right =>
    have := weight_binarySteps operator left right depth
    simp only [Step.weight, Node.size]; omega
  case h_6 operator left right =>
    have := weight_binarySteps operator left right depth
    simp only [Step.weight, Node.size]; omega
  all_goals (simp only [weight, Step.weight, Node.size] at *; omega)

/-- Writes a stack of steps. -/
def run : List Step → List Char
  | [] => []
  | .text s :: rest => s.toList ++ run rest
  | .visit node depth :: rest => run (steps node depth ++ rest)
termination_by stack => weight stack
decreasing_by
  · simp [weight, Step.weight]
  · have := weight_steps_lt node depth
    simp only [weight_append, weight]; omega

end Render

namespace Node

/-- The expression as text. -/
def renderText (node : Node) : String := String.ofList (Render.run [.visit node 0])

/-- The expression as a cell shows it: a literal is passed on, all else becomes text. -/
def render : Node → Shown
  | .literal value => .literal value
  | node => .text node.renderText

/-- An optional expression; nothing is shown as empty text. -/
def renderOption : Option Node → Shown
  | some node => node.render
  | none => .text ""

end Node

end ScriptOutline
