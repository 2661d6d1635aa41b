import Mathlib.Tactic.Common
import ScriptOutline.Proofs.Outline.Walk

/-!
# Blocks and unsupported nodes are transparent

A block and an unsupported node stand for the statements in them: the walk over either is the walk
over its statements, which neither finds a record of its own nor takes a line. So it makes no
difference how the statements of a program are grouped.

`Regrouped` says of two lists that they hold the same statements in the same order, whatever blocks
and unsupported nodes are around them, and it says so of lists in order to have one rule for each
change: in a list, the statements of a block may take its place; where only one statement can stand,
a list of one statement is related to a list of one block. Lists that are related have the same walk
(`walkAll_of_regrouped`). The statements of a program are the exception. Each of them takes a line, so
there only one statement may take the place of another one.
-/

namespace ScriptOutline

namespace Node

open Walk

/-- Both lists hold the same statements in the same order, and so do the statements in them, whatever
blocks and unsupported nodes they are grouped by. -/
inductive Regrouped : List Node → List Node → Prop where
  | refl (nodes : List Node) : Regrouped nodes nodes
  | append {as bs as' bs' : List Node} (h : Regrouped as as') (h' : Regrouped bs bs') :
      Regrouped (as ++ bs) (as' ++ bs')
  /-- A block is replaced by its statements. -/
  | openBlock {body nodes : List Node} (h : Regrouped body nodes) : Regrouped [.block body] nodes
  /-- An unsupported node is replaced by its statements. -/
  | openUnsupported {kind : String} {name : Option String} {children nodes : List Node}
      (h : Regrouped children nodes) : Regrouped [.unsupported kind name children] nodes
  /-- Statements are put into a block. -/
  | block {nodes body : List Node} (h : Regrouped nodes body) : Regrouped nodes [.block body]
  /-- Statements are put into an unsupported node. -/
  | unsupported {nodes children : List Node} (kind : String) (name : Option String)
      (h : Regrouped nodes children) : Regrouped nodes [.unsupported kind name children]
  | function {body body' : Node} (id : Node) (params : List Node) (h : Regrouped [body] [body']) :
      Regrouped [.function id params body] [.function id params body']
  | «variables» {declarations declarations' : List Node} (keyword : String)
      (h : Regrouped declarations declarations') :
      Regrouped [.variables keyword declarations] [.variables keyword declarations']
  | «while» {body body' : Node} (test : Node) (h : Regrouped [body] [body']) :
      Regrouped [.while test body] [.while test body']
  | «if» {consequent consequent' : Node} {alternate alternate' : Option Node} (test : Node)
      (h : Regrouped [consequent] [consequent'])
      (h' : Regrouped alternate.toList alternate'.toList) :
      Regrouped [.if test consequent alternate] [.if test consequent' alternate']
  | «for» {body body' : Node} (init test update : Option Node) (h : Regrouped [body] [body']) :
      Regrouped [.for init test update body] [.for init test update body']
  /-- In a program, one statement takes the place of another one. -/
  | program {first first' : Node} {rest rest' : List Node} (h : Regrouped [first] [first'])
      (h' : Regrouped [.program rest] [.program rest']) :
      Regrouped [.program (first :: rest)] [.program (first' :: rest')]

theorem walkAll_singleton (n : Node) : walkAll [n] = n.walk := andThen_idle n.walk

theorem walkAll_append (as bs : List Node) :
    walkAll (as ++ bs) = (walkAll as).andThen (walkAll bs) := by
  induction as with
  | nil => rw [List.nil_append, walkAll, idle_andThen]
  | cons a as ih => rw [List.cons_append, walkAll, walkAll, ih, andThen_assoc]

theorem walkAll_toList (o : Option Node) : walkAll o.toList = walkOption o := by
  cases o with
  | none => rfl
  | some n => exact walkAll_singleton n

/-- The walk does not see how statements are grouped. -/
theorem walkAll_of_regrouped {as bs : List Node} (h : Regrouped as bs) :
    walkAll bs = walkAll as := by
  induction h with
  | refl nodes => rfl
  | append _ _ ih ih' => rw [walkAll_append, walkAll_append, ih, ih']
  | openBlock _ ih | openUnsupported _ ih => rw [walkAll_singleton, walk, ih]
  | block _ ih | unsupported kind name _ ih => rw [walkAll_singleton, walk, ih]
  | «variables» keyword _ ih => rw [walkAll_singleton, walkAll_singleton, walk, walk, ih]
  | function id params _ ih | «while» test _ ih | «for» init test update _ ih =>
    rw [walkAll_singleton, walkAll_singleton] at ih
    rw [walkAll_singleton, walkAll_singleton, walk, walk, ih]
  | «if» test _ _ ih ih' =>
    rw [walkAll_singleton, walkAll_singleton] at ih
    rw [walkAll_toList, walkAll_toList] at ih'
    rw [walkAll_singleton, walkAll_singleton, walk, walk, ih, ih']
  | program _ _ ih ih' =>
    rw [walkAll_singleton, walkAll_singleton] at ih
    rw [walkAll_singleton, walkAll_singleton, walk, walk] at ih'
    rw [walkAll_singleton, walkAll_singleton, walk, walk, walkProgram, walkProgram, ih, ih']

/-! ## Opening everything -/

mutual

/-- The tree with all blocks and unsupported nodes opened that stand in a list, except for the
statements of a program. -/
def flat : Node → Node
  | .program body => .program (flatEach body)
  | .function id params body => .function id params body.flat
  | .block body => .block (flatAll body)
  | .variables keyword declarations => .variables keyword (flatAll declarations)
  | .while test body => .while test body.flat
  | .if test consequent alternate => .if test consequent.flat (flatOption alternate)
  | .for init test update body => .for init test update body.flat
  | .unsupported kind name children => .unsupported kind name (flatAll children)
  | n => n

/-- Trees in a list, with blocks and unsupported nodes replaced by what is in them. -/
def flatAll : List Node → List Node
  | [] => []
  | .block body :: rest => flatAll body ++ flatAll rest
  | .unsupported _ _ children :: rest => flatAll children ++ flatAll rest
  | n :: rest => n.flat :: flatAll rest

/-- The statements of a program, each of them flat. -/
def flatEach : List Node → List Node
  | [] => []
  | n :: rest => n.flat :: flatEach rest

/-- A tree that may be absent, flat. -/
def flatOption : Option Node → Option Node
  | none => none
  | some n => some n.flat

end

mutual

theorem regrouped_flat : ∀ n : Node, Regrouped [n] [n.flat]
  | .program body => regrouped_flatEach body
  | .function id params body => .function id params (regrouped_flat body)
  | .block body => .openBlock (.block (regrouped_flatAll body))
  | .variables keyword declarations => .variables keyword (regrouped_flatAll declarations)
  | .while test body => .while test (regrouped_flat body)
  | .if test consequent alternate =>
    .if test (regrouped_flat consequent) (regrouped_flatOption alternate)
  | .for init test update body => .for init test update (regrouped_flat body)
  | .unsupported kind name children =>
    .openUnsupported (.unsupported kind name (regrouped_flatAll children))
  | .declarator .. | .expression _ | .assignment .. | .return _ | .member .. | .binary ..
  | .logical .. | .unary .. | .literal _ | .identifier _ => .refl _

theorem regrouped_flatAll : ∀ nodes : List Node, Regrouped nodes (flatAll nodes)
  | [] => .refl []
  | n :: rest => by
    have hrest := regrouped_flatAll rest
    have hn := regrouped_flat n
    cases n with
    | block body => exact .append (.openBlock (regrouped_flatAll body)) hrest
    | unsupported kind name children =>
      exact .append (.openUnsupported (regrouped_flatAll children)) hrest
    | _ => exact .append hn hrest

theorem regrouped_flatEach : ∀ nodes : List Node,
    Regrouped [.program nodes] [.program (flatEach nodes)]
  | [] => .refl _
  | n :: rest => .program (regrouped_flat n) (regrouped_flatEach rest)

theorem regrouped_flatOption : ∀ o : Option Node,
    Regrouped o.toList (flatOption o).toList
  | none => .refl []
  | some n => regrouped_flat n

end

/-- The outline of a tree does not depend on how its statements are grouped by blocks and unsupported
nodes. It is that of the tree with all of them opened, and that of every tree with the same
statements, of which any may stand in blocks and unsupported nodes that are put around it. -/
theorem outline_regrouped (t : Node) :
    t.flat.outline = t.outline ∧ ∀ u, Regrouped [t] [u] → u.outline = t.outline := by
  have hsame : ∀ u, Regrouped [t] [u] → u.outline = t.outline := by
    intro u h
    have hwalk := walkAll_of_regrouped h
    rw [walkAll_singleton, walkAll_singleton] at hwalk
    exact outline_congr hwalk
  exact ⟨hsame t.flat (regrouped_flat t), hsame⟩

/-- The statement `x = null;`. -/
def clearing : Node := .expression (.assignment "=" (.identifier "x") (.literal .null))

/-- A loop whose two statements stand in a block of their own and in a `try` statement. -/
def scatteredLoop : Node :=
  .while (.identifier "a")
    (.block [.block [clearing], .unsupported "TryStatement" none [.block [.return none]]])

/-- The same loop with a label, and with its two statements together in an inner block. -/
def labeledLoop : Node :=
  .unsupported "LabeledStatement" none
    [.while (.identifier "a") (.block [.block [clearing, .return none]])]

/-- Both loops have the same records on the same lines, with a statement after them too. -/
theorem outline_regrouped_loop :
    Regrouped [.program [scatteredLoop, clearing]] [.program [labeledLoop, clearing]] ∧
      (program [labeledLoop, clearing]).outline = (program [scatteredLoop, clearing]).outline := by
  have hbody : Regrouped
      ([.block [clearing]] ++ [.unsupported "TryStatement" none [.block [.return none]]])
      ([clearing] ++ [.return none]) :=
    .append (.openBlock (.refl _)) (.openUnsupported (.openBlock (.refl _)))
  have hloop : Regrouped [scatteredLoop] [labeledLoop] :=
    .unsupported _ none (.while _ (.openBlock (.block (.block hbody))))
  have hprogram : Regrouped [.program [scatteredLoop, clearing]] [.program [labeledLoop, clearing]] :=
    .program hloop (.refl _)
  exact ⟨hprogram, (outline_regrouped _).2 _ hprogram⟩

end Node

end ScriptOutline
