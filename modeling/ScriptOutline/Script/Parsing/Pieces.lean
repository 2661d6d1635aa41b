import ScriptOutline.Script.Tree

/-!
# Pieces of trees

The trees that a phrase consists of, before there is a node to hold them. Phrases are put together from
hidden ones many times over, so putting pieces side by side and giving them a role take no time; the
list of trees is made when a node is.
-/

namespace ScriptOutline

namespace Script

/-- Trees side by side, each with the part that it plays. -/
inductive Pieces where
  | nothing
  | one (role : Option Role) (tree : Tree)
  | beside (first second : Pieces)
  /-- Pieces that play a part unless they have one already. -/
  | playing (role : Role) (pieces : Pieces)

namespace Pieces

/-- Puts pieces side by side. -/
def append : Pieces → Pieces → Pieces
  | .nothing, second => second
  | first, .nothing => first
  | first, second => .beside first second

/-- Puts pieces before a list of trees. Those without a part play the given one. -/
def before : Pieces → Option Role → List Child → List Child
  | .nothing, _, rest => rest
  | .one role tree, outer, rest => (role.or outer, tree) :: rest
  | .beside first second, outer, rest => first.before outer (second.before outer rest)
  | .playing role pieces, _, rest => pieces.before (some role) rest

/-- The trees in order. -/
def toList (pieces : Pieces) : List Child := pieces.before none []

/-! ## Laws -/

theorem before_eq (pieces : Pieces) (outer : Option Role) (rest : List Child) :
    pieces.before outer rest = pieces.before outer [] ++ rest := by
  induction pieces generalizing outer rest with
  | nothing => rfl
  | one role tree => rfl
  | beside first second ih₁ ih₂ =>
    simp only [before]
    rw [ih₁, ih₂, ih₁ outer (second.before outer []), List.append_assoc]
  | playing role pieces ih => exact ih _ _

/-- Pieces side by side are the trees of the first before those of the second. -/
theorem toList_append (first second : Pieces) :
    (first.append second).toList = first.toList ++ second.toList := by
  have h : (Pieces.beside first second).toList = first.toList ++ second.toList :=
    before_eq first none _
  unfold append
  split
  · rfl
  · simp [toList, before]
  · exact h

end Pieces

end Script

end ScriptOutline
