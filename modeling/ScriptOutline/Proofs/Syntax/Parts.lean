import Mathlib.Tactic.Common
import ScriptOutline.Syntax.Node

/-!
# Parts of trees

The parts of a node, whatever slot they stand in, and the nodes that lie some edges below another
one. A statement about every node of a tree is a statement about all nodes that `Lies` reaches from
its root; that none of them lies too deep is `Within`.
-/

namespace ScriptOutline

namespace Node

/-- The parts of a node in the order of its slots. -/
def parts : Node → List Node
  | .program body => body
  | .function id params body => id :: (params ++ [body])
  | .block body => body
  | .variables _ declarations => declarations
  | .declarator id init => id :: init.toList
  | .expression e => [e]
  | .assignment _ left right => [left, right]
  | .while test body => [test, body]
  | .if test consequent alternate => test :: consequent :: alternate.toList
  | .for init test update body => init.toList ++ test.toList ++ update.toList ++ [body]
  | .return argument => argument.toList
  | .member object property _ => [object, property]
  | .binary _ left right => [left, right]
  | .logical _ left right => [left, right]
  | .unary _ argument => [argument]
  | .literal _ => []
  | .identifier _ => []
  | .unsupported _ _ children => children

/-- `Lies root k node` says that the node lies `k` edges below the root. -/
inductive Lies : Node → Nat → Node → Prop where
  | here (node : Node) : Lies node 0 node
  | inside {root part node : Node} {k : Nat} (hp : part ∈ root.parts) (h : Lies part k node) :
      Lies root (k + 1) node

/-- What is said of every node of a tree is said of its root and of every node of its parts. -/
theorem forall_lies_iff {root : Node} {P : Nat → Node → Prop} :
    (∀ k node, Lies root k node → P k node) ↔
      P 0 root ∧ ∀ part ∈ root.parts, ∀ k node, Lies part k node → P (k + 1) node := by
  constructor
  · intro h
    exact ⟨h 0 root (.here root), fun part hp k node hl => h (k + 1) node (.inside hp hl)⟩
  · rintro ⟨hroot, hparts⟩ k node hl
    cases hl with
    | here => exact hroot
    | inside hp hl => exact hparts _ hp _ _ hl

/-- All nodes of the tree lie less than so many edges below its root. -/
def Within (n : Node) (depth : Nat) : Prop := ∀ k node, Lies n k node → k < depth

theorem within_succ_iff {n : Node} {depth : Nat} :
    n.Within (depth + 1) ↔ ∀ p ∈ n.parts, p.Within depth := by
  constructor
  · intro h p hp k node hl
    exact Nat.lt_of_succ_lt_succ (h (k + 1) node (.inside hp hl))
  · intro h k node hl
    cases hl with
    | here => exact Nat.succ_pos depth
    | inside hp hl => exact Nat.succ_lt_succ (h _ hp _ _ hl)

theorem Within.mono {n : Node} {depth depth' : Nat} (h : n.Within depth) (hle : depth ≤ depth') :
    n.Within depth' :=
  fun k node hl => Nat.lt_of_lt_of_le (h k node hl) hle

theorem Within.pos {n : Node} {depth : Nat} (h : n.Within depth) : 0 < depth := h 0 n (.here n)

end Node

end ScriptOutline
