import ScriptOutline.Outline.Render

/-!
# Outlines

The outline of a tree is the list of records found by walking it depth first, left to right. Logical
lines are counted from the shape of the tree alone; source positions play no part.

The walk runs on an explicit stack of tasks. Lines that follow a subtree, such as the closing line of
a loop, wait on the same stack as `advance` tasks behind it.
-/

namespace ScriptOutline

namespace Outline

/-- What is still to be done. -/
inductive Task where
  | visit (node : Node)
  | advance

/-- What visiting a node does at once: the records it adds, the line after them, and the tasks it
leaves, in order. -/
structure Visit where
  records : List Record
  line : Nat
  tasks : List Task

/-- Each statement of a program takes a line before it is visited. -/
def programTasks : List Node → List Task
  | [] => []
  | statement :: rest => .advance :: .visit statement :: programTasks rest

/-- Visits a node at a line. -/
def visit (node : Node) (line : Nat) : Visit :=
  match node with
  | .program body => ⟨[], line, programTasks body⟩
  | .function id params body =>
    ⟨.named line node.typeName id.renderText none ::
        params.map fun p => .named line p.typeName p.renderText none,
      line + 1, [.visit body]⟩
  | .block body => ⟨[], line, body.map .visit⟩
  | .variables _ declarations => ⟨[], line, declarations.map .visit ++ [.advance]⟩
  | .declarator id init =>
    ⟨[.named line node.typeName id.renderText (init.map Node.render)], line, []⟩
  | .expression e => ⟨[], line, if e.isAssignment then [.visit e, .advance] else [.advance]⟩
  | .assignment _ left right =>
    ⟨[.named line node.typeName left.renderText (some right.render)], line, []⟩
  | .while test body =>
    ⟨[.conditional line node.typeName test.renderText], line + 1, [.visit body, .advance]⟩
  | .if test consequent alternate =>
    ⟨[.conditional line node.typeName test.renderText], line + 1,
      .visit consequent :: (alternate.toList.map .visit ++ [.advance])⟩
  | .for _ test _ body =>
    ⟨[.conditional line node.typeName ((test.map Node.renderText).getD "")], line + 1,
      [.visit body, .advance]⟩
  | .return argument => ⟨[.valued line node.typeName (Node.renderOption argument)], line, []⟩
  | .unsupported _ _ children => ⟨[], line, children.map .visit⟩
  | _ => ⟨[], line, []⟩

/-- The number of nodes that a task can still visit. -/
def Task.weight : Task → Nat
  | .visit node => node.size
  | .advance => 0

/-- The number of nodes that a stack of tasks can still visit. -/
def weight : List Task → Nat
  | [] => 0
  | t :: rest => t.weight + weight rest

theorem weight_append (a b : List Task) : weight (a ++ b) = weight a + weight b := by
  induction a with
  | nil => simp [weight]
  | cons t a ih => simp [weight, ih]; omega

theorem weight_map_visit (nodes : List Node) : weight (nodes.map .visit) = Node.sizes nodes := by
  induction nodes with
  | nil => simp [weight, Node.sizes]
  | cons n rest ih => simp [weight, Task.weight, Node.sizes, ih]

theorem weight_programTasks (body : List Node) : weight (programTasks body) = Node.sizes body := by
  induction body with
  | nil => simp [weight, programTasks, Node.sizes]
  | cons n rest ih => simp [weight, programTasks, Task.weight, Node.sizes, ih]

/-- The tasks that a visit leaves hold fewer nodes than the node visited. -/
theorem weight_visit_lt (node : Node) (line : Nat) : weight (visit node line).tasks < node.size := by
  cases node <;>
    simp only [visit, weight, weight_append, weight_map_visit, weight_programTasks, Task.weight,
      Node.size] <;>
    try omega
  case expression e =>
    split <;> simp only [weight, Task.weight] <;> omega
  case «if» test consequent alternate =>
    cases alternate <;>
      simp only [Option.toList_none, Option.toList_some, Node.sizes, Node.sizeOption] <;> omega

/-- The records of a stack of tasks, from a line on. -/
def run (line : Nat) : List Task → List Record
  | [] => []
  | .advance :: rest => run (line + 1) rest
  | .visit node :: rest =>
    (visit node line).records ++ run (visit node line).line ((visit node line).tasks ++ rest)
termination_by tasks => (weight tasks, tasks.length)
decreasing_by
  · simp only [weight, Task.weight, Nat.zero_add, List.length_cons]
    exact Prod.Lex.right _ (by omega)
  · have := weight_visit_lt node line
    simp only [weight, weight_append, Task.weight]
    exact Prod.Lex.left _ _ (by omega)

end Outline

namespace Node

/-- The outline of a tree. Lines are counted from zero, so the first statement of a program, which
takes a line before it is visited, is on line one. -/
def outline (root : Node) : List Record := Outline.run 0 [.visit root]

end Node

end ScriptOutline
