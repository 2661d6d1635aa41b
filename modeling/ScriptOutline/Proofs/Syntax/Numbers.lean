import Mathlib.Tactic.Common
import ScriptOutline.Syntax.Node

/-!
# Numbers in trees

Putting other literals in the place of the numbers of a tree, each number by the same rule wherever it
stands. Nothing else about the tree changes.
-/

namespace ScriptOutline

/-- A literal with another one in the place of a number. -/
def Literal.renumber (f : Double → Literal) : Literal → Literal
  | .number d => f d
  | value => value

namespace Node

variable (f : Double → Literal)

mutual

/-- The tree with other literals in the place of its numbers. -/
def renumber : Node → Node
  | .program body => .program (renumberAll body)
  | .function id params body => .function id.renumber (renumberAll params) body.renumber
  | .block body => .block (renumberAll body)
  | .variables keyword declarations => .variables keyword (renumberAll declarations)
  | .declarator id init => .declarator id.renumber (renumberOption init)
  | .expression e => .expression e.renumber
  | .assignment operator left right => .assignment operator left.renumber right.renumber
  | .while test body => .while test.renumber body.renumber
  | .if test consequent alternate =>
    .if test.renumber consequent.renumber (renumberOption alternate)
  | .for init test update body =>
    .for (renumberOption init) (renumberOption test) (renumberOption update) body.renumber
  | .return argument => .return (renumberOption argument)
  | .member object property computed => .member object.renumber property.renumber computed
  | .binary operator left right => .binary operator left.renumber right.renumber
  | .logical operator left right => .logical operator left.renumber right.renumber
  | .unary operator argument => .unary operator argument.renumber
  | .literal value => .literal (value.renumber f)
  | .identifier name => .identifier name
  | .unsupported kind name children => .unsupported kind name (renumberAll children)

/-- Trees with other literals in the place of their numbers. -/
def renumberAll : List Node → List Node
  | [] => []
  | n :: rest => n.renumber :: renumberAll rest

/-- An optional tree with other literals in the place of its numbers. -/
def renumberOption : Option Node → Option Node
  | none => none
  | some n => some n.renumber

end

theorem renumberAll_eq_map (nodes : List Node) : renumberAll f nodes = nodes.map (renumber f) := by
  induction nodes with
  | nil => rfl
  | cons n rest ih => rw [renumberAll, ih, List.map_cons]

@[simp] theorem typeName_renumber (n : Node) : (n.renumber f).typeName = n.typeName := by
  cases n <;> rfl

@[simp] theorem isAssignment_renumber (n : Node) :
    (n.renumber f).isAssignment = n.isAssignment := by
  cases n <;> rfl

end Node

end ScriptOutline
