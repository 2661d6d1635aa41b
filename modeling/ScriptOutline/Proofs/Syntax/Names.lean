import Mathlib.Tactic.Common
import ScriptOutline.Syntax.Node

/-!
# Names of unsupported nodes

An unsupported node may have a name of its own, which is all that is shown of it. What matters about
a tree without these names is that all other nodes stay as they are (`Erases`); where there are no
names, so does the whole tree.
-/

namespace ScriptOutline

namespace Node

mutual

/-- The tree without the names of its unsupported nodes. -/
def withoutNames : Node → Node
  | .program body => .program (allWithoutNames body)
  | .function id params body =>
    .function id.withoutNames (allWithoutNames params) body.withoutNames
  | .block body => .block (allWithoutNames body)
  | .variables keyword declarations => .variables keyword (allWithoutNames declarations)
  | .declarator id init => .declarator id.withoutNames (optionWithoutNames init)
  | .expression e => .expression e.withoutNames
  | .assignment operator left right => .assignment operator left.withoutNames right.withoutNames
  | .while test body => .while test.withoutNames body.withoutNames
  | .if test consequent alternate =>
    .if test.withoutNames consequent.withoutNames (optionWithoutNames alternate)
  | .for init test update body =>
    .for (optionWithoutNames init) (optionWithoutNames test) (optionWithoutNames update)
      body.withoutNames
  | .return argument => .return (optionWithoutNames argument)
  | .member object property computed => .member object.withoutNames property.withoutNames computed
  | .binary operator left right => .binary operator left.withoutNames right.withoutNames
  | .logical operator left right => .logical operator left.withoutNames right.withoutNames
  | .unary operator argument => .unary operator argument.withoutNames
  | .literal value => .literal value
  | .identifier name => .identifier name
  | .unsupported kind _ children => .unsupported kind none (allWithoutNames children)

/-- Trees without the names of their unsupported nodes. -/
def allWithoutNames : List Node → List Node
  | [] => []
  | n :: rest => n.withoutNames :: allWithoutNames rest

/-- An optional tree without the names of its unsupported nodes. -/
def optionWithoutNames : Option Node → Option Node
  | none => none
  | some n => some n.withoutNames

end

@[simp] theorem allWithoutNames_eq_map (nodes : List Node) :
    allWithoutNames nodes = nodes.map withoutNames := by
  induction nodes with
  | nil => rfl
  | cons n rest ih => rw [allWithoutNames, ih, List.map_cons]

@[simp] theorem optionWithoutNames_eq_map (o : Option Node) :
    optionWithoutNames o = o.map withoutNames := by
  cases o <;> rfl

/-- A change of trees that goes through supported nodes without touching them, and, if there may be
names of unsupported nodes, takes those away. -/
structure Erases (named : Bool) (f : Node → Node) : Prop where
  program (body : List Node) : f (.program body) = .program (body.map f)
  function (id : Node) (params : List Node) (body : Node) :
    f (.function id params body) = .function (f id) (params.map f) (f body)
  block (body : List Node) : f (.block body) = .block (body.map f)
  «variables» (keyword : String) (declarations : List Node) :
    f (.variables keyword declarations) = .variables keyword (declarations.map f)
  declarator (id : Node) (init : Option Node) :
    f (.declarator id init) = .declarator (f id) (init.map f)
  expression (e : Node) : f (.expression e) = .expression (f e)
  assignment (operator : String) (left right : Node) :
    f (.assignment operator left right) = .assignment operator (f left) (f right)
  «while» (test body : Node) : f (.while test body) = .while (f test) (f body)
  «if» (test consequent : Node) (alternate : Option Node) :
    f (.if test consequent alternate) = .if (f test) (f consequent) (alternate.map f)
  «for» (init test update : Option Node) (body : Node) :
    f (.for init test update body) = .for (init.map f) (test.map f) (update.map f) (f body)
  «return» (argument : Option Node) : f (.return argument) = .return (argument.map f)
  member (object property : Node) (computed : Bool) :
    f (.member object property computed) = .member (f object) (f property) computed
  binary (operator : String) (left right : Node) :
    f (.binary operator left right) = .binary operator (f left) (f right)
  logical (operator : String) (left right : Node) :
    f (.logical operator left right) = .logical operator (f left) (f right)
  unary (operator : String) (argument : Node) :
    f (.unary operator argument) = .unary operator (f argument)
  literal (value : Literal) : f (.literal value) = .literal value
  identifier (name : String) : f (.identifier name) = .identifier name
  unsupported (h : named = true) (kind : String) (name : Option String) :
    f (.unsupported kind name []) = .unsupported kind none []

/-- Taking all names away does so whether there are any or not. -/
theorem erases_withoutNames (named : Bool) : Erases named withoutNames := by
  constructor <;> intros <;> simp [withoutNames]

/-- Without names there is nothing to take away. -/
theorem erases_id : Erases false id := by
  constructor <;> intros <;> simp_all

end Node

end ScriptOutline
