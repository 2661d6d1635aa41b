import Mathlib.Tactic.Common
import ScriptOutline.Syntax.Node

/-!
# Comparing trees

Two trees are the same if they have the same shape, the same texts and the same literals, where
numbers are compared as numbers: the two zeros are equal and a NaN equals nothing.
-/

namespace ScriptOutline

namespace Node

mutual

/-- Whether two trees are the same, with numbers compared as numbers. -/
def sameValue : Node → Node → Bool
  | .program a, .program b => sameValues a b
  | .function id params body, .function id' params' body' =>
    id.sameValue id' && sameValues params params' && body.sameValue body'
  | .block a, .block b => sameValues a b
  | .variables keyword a, .variables keyword' b => keyword == keyword' && sameValues a b
  | .declarator id init, .declarator id' init' => id.sameValue id' && sameOption init init'
  | .expression a, .expression b => a.sameValue b
  | .assignment operator left right, .assignment operator' left' right' =>
    operator == operator' && left.sameValue left' && right.sameValue right'
  | .while test body, .while test' body' => test.sameValue test' && body.sameValue body'
  | .if test consequent alternate, .if test' consequent' alternate' =>
    test.sameValue test' && consequent.sameValue consequent' && sameOption alternate alternate'
  | .for init test update body, .for init' test' update' body' =>
    sameOption init init' && sameOption test test' && sameOption update update' &&
      body.sameValue body'
  | .return a, .return b => sameOption a b
  | .member object property computed, .member object' property' computed' =>
    object.sameValue object' && property.sameValue property' && computed == computed'
  | .binary operator left right, .binary operator' left' right' =>
    operator == operator' && left.sameValue left' && right.sameValue right'
  | .logical operator left right, .logical operator' left' right' =>
    operator == operator' && left.sameValue left' && right.sameValue right'
  | .unary operator argument, .unary operator' argument' =>
    operator == operator' && argument.sameValue argument'
  | .literal a, .literal b => a.sameValue b
  | .identifier a, .identifier b => a == b
  | .unsupported kind name children, .unsupported kind' name' children' =>
    kind == kind' && name == name' && sameValues children children'
  | _, _ => false

/-- Whether two lists hold the same trees. -/
def sameValues : List Node → List Node → Bool
  | [], [] => true
  | a :: as, b :: bs => a.sameValue b && sameValues as bs
  | _, _ => false

/-- Whether two slots are both empty or hold the same tree. -/
def sameOption : Option Node → Option Node → Bool
  | none, none => true
  | some a, some b => a.sameValue b
  | _, _ => false

end

end Node

end ScriptOutline
