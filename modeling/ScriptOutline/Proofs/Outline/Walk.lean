import ScriptOutline.Outline.Visit

/-!
# Outlines by recursion

The outline is found on a stack of tasks. Here the same records are found by a walk that recurses on
the tree and hands the line counter from one part to the next. A stack of tasks stands for the walks
of its tasks, one after the other; one step of the loop keeps what the stack stands for, so the loop
and the walk agree on every stack, and the outline is what the walk finds from line zero on.
-/

namespace ScriptOutline

/-- What a walk finds: the records in order, and the line after them. -/
structure Walked where
  records : List Record
  line : Nat

/-- A walk over a part of a tree, from a line on. -/
abbrev Walk := Nat → Walked

namespace Walk

/-- Finds nothing and stays on the line. -/
def idle : Walk := fun line => ⟨[], line⟩

/-- Goes to the next line. -/
def advance : Walk := fun line => ⟨[], line + 1⟩

/-- Finds records that carry the current line. -/
def emit (records : Nat → List Record) : Walk := fun line => ⟨records line, line⟩

/-- One walk, and then another from the line where the first one ends. -/
def andThen (first second : Walk) : Walk := fun line =>
  ⟨(first line).records ++ (second (first line).line).records, (second (first line).line).line⟩

theorem idle_andThen (w : Walk) : idle.andThen w = w := by
  funext line
  simp [andThen, idle]

theorem andThen_idle (w : Walk) : w.andThen idle = w := by
  funext line
  simp [andThen, idle]

theorem andThen_assoc (a b c : Walk) : (a.andThen b).andThen c = a.andThen (b.andThen c) := by
  funext line
  simp [andThen]

end Walk

namespace Node

open Walk

mutual

/-- The walk over a tree. A record carries the line on which its node is met. -/
def walk : Node → Walk
  | .program body => walkProgram body
  | .function id params body =>
    (emit fun line => .named line "FunctionDeclaration" id.renderText none ::
        params.map fun p => .named line p.typeName p.renderText none).andThen
      (advance.andThen body.walk)
  | .block body => walkAll body
  | .variables _ declarations => (walkAll declarations).andThen advance
  | .declarator id init =>
    emit fun line => [.named line "VariableDeclarator" id.renderText (init.map render)]
  | .expression e => (if e.isAssignment then e.walk else idle).andThen advance
  | .assignment _ left right =>
    emit fun line => [.named line "AssignmentExpression" left.renderText (some right.render)]
  | .while test body =>
    (emit fun line => [.conditional line "WhileStatement" test.renderText]).andThen
      (advance.andThen (body.walk.andThen advance))
  | .if test consequent alternate =>
    (emit fun line => [.conditional line "IfStatement" test.renderText]).andThen
      (advance.andThen (consequent.walk.andThen ((walkOption alternate).andThen advance)))
  | .for _ test _ body =>
    (emit fun line =>
        [.conditional line "ForStatement" ((test.map renderText).getD "")]).andThen
      (advance.andThen (body.walk.andThen advance))
  | .return argument => emit fun line => [.valued line "ReturnStatement" (renderOption argument)]
  | .unsupported _ _ children => walkAll children
  | .member .. | .binary .. | .logical .. | .unary .. | .literal .. | .identifier .. => idle

/-- The walk over trees in order. -/
def walkAll : List Node → Walk
  | [] => idle
  | n :: rest => n.walk.andThen (walkAll rest)

/-- The walk over the statements of a program: each one takes a line before it. -/
def walkProgram : List Node → Walk
  | [] => idle
  | n :: rest => advance.andThen (n.walk.andThen (walkProgram rest))

/-- The walk over a tree that may be absent. -/
def walkOption : Option Node → Walk
  | none => idle
  | some n => n.walk

end

end Node

namespace Outline

open Walk

/-- The walk that a task stands for. -/
def Task.walk : Task → Walk
  | .visit node => node.walk
  | .advance => Walk.advance

/-- The walk that a stack of tasks stands for. -/
def walkTasks : List Task → Walk
  | [] => idle
  | t :: rest => t.walk.andThen (walkTasks rest)

theorem walkTasks_append (a b : List Task) :
    walkTasks (a ++ b) = (walkTasks a).andThen (walkTasks b) := by
  induction a with
  | nil => rw [List.nil_append, walkTasks, idle_andThen]
  | cons t a ih => rw [List.cons_append, walkTasks, walkTasks, ih, andThen_assoc]

theorem walkTasks_map_visit (nodes : List Node) :
    walkTasks (nodes.map .visit) = Node.walkAll nodes := by
  induction nodes with
  | nil => rw [List.map_nil, walkTasks, Node.walkAll]
  | cons n rest ih => rw [List.map_cons, walkTasks, ih, Task.walk, Node.walkAll]

theorem walkTasks_programTasks (body : List Node) :
    walkTasks (programTasks body) = Node.walkProgram body := by
  induction body with
  | nil => rw [programTasks, walkTasks, Node.walkProgram]
  | cons n rest ih =>
    rw [programTasks, walkTasks, walkTasks, ih, Task.walk, Task.walk, Node.walkProgram]

theorem walkTasks_option (node : Option Node) :
    walkTasks (node.toList.map .visit) = Node.walkOption node := by
  cases node with
  | none => rfl
  | some n => exact andThen_idle n.walk

/-- Visiting a node does the first part of its walk at once and leaves the rest as tasks. -/
theorem walk_eq_visit (node : Node) (line : Nat) :
    node.walk line =
      ⟨(visit node line).records ++
          (walkTasks (visit node line).tasks (visit node line).line).records,
        (walkTasks (visit node line).tasks (visit node line).line).line⟩ := by
  cases node with
  | program body => simp [Node.walk, visit, walkTasks_programTasks]
  | function id params body =>
    simp [Node.walk, visit, walkTasks, Task.walk, andThen, emit, advance, idle, Node.typeName]
  | block body => simp [Node.walk, visit, walkTasks_map_visit]
  | «variables» keyword declarations =>
    simp [Node.walk, visit, walkTasks_append, walkTasks_map_visit, walkTasks, Task.walk,
      andThen_idle]
  | declarator id init => simp [Node.walk, visit, walkTasks, emit, idle, Node.typeName]
  | expression e =>
    by_cases h : e.isAssignment
    · simp [Node.walk, visit, h, walkTasks, Task.walk, andThen_idle]
    · simp [Node.walk, visit, h, walkTasks, Task.walk, andThen_idle, idle_andThen]
  | assignment operator left right =>
    simp [Node.walk, visit, walkTasks, emit, idle, Node.typeName]
  | «while» test body =>
    simp [Node.walk, visit, walkTasks, Task.walk, andThen, emit, advance, idle, Node.typeName]
  | «if» test consequent alternate =>
    have hrest : walkTasks (.visit consequent :: (alternate.toList.map .visit ++ [.advance])) =
        consequent.walk.andThen ((Node.walkOption alternate).andThen advance) := by
      rw [walkTasks, walkTasks_append, walkTasks_option, walkTasks, walkTasks, andThen_idle]
      rfl
    simp [Node.walk, visit, hrest, andThen, emit, advance, Node.typeName]
  | «for» init test update body =>
    simp [Node.walk, visit, walkTasks, Task.walk, andThen, emit, advance, idle, Node.typeName]
  | «return» argument => simp [Node.walk, visit, walkTasks, emit, idle, Node.typeName]
  | unsupported kind name children => simp [Node.walk, visit, walkTasks_map_visit]
  | member | binary | logical | unary | literal | identifier =>
    simp [Node.walk, visit, walkTasks, idle]

/-- The loop finds, on any stack and from any line on, what the tasks of the stack stand for. -/
theorem run_eq_walkTasks (line : Nat) (tasks : List Task) :
    run line tasks = (walkTasks tasks line).records := by
  fun_induction run line tasks with
  | case1 line => rfl
  | case2 line rest ih =>
    rw [ih]
    simp [walkTasks, Task.walk, andThen, advance]
  | case3 line node rest ih =>
    -- The tasks left by the visit stand before the rest of the stack.
    rw [ih, walkTasks_append, walkTasks, Task.walk, andThen, andThen, walk_eq_visit node line]
    simp

end Outline

/-- Trees with the same walk have the same outline. -/
theorem Node.outline_congr {a b : Node} (h : a.walk = b.walk) : a.outline = b.outline := by
  have htask (n : Node) : Outline.walkTasks [.visit n] = n.walk := Walk.andThen_idle n.walk
  rw [outline, outline, Outline.run_eq_walkTasks, Outline.run_eq_walkTasks, htask, htask, h]

/-- The outline of a tree is what the recursive walk over it finds from line zero on. -/
theorem Node.outline_eq_walk (root : Node) : root.outline = (root.walk 0).records := by
  rw [outline, Outline.run_eq_walkTasks, Outline.walkTasks, Outline.walkTasks,
    Walk.andThen_idle, Outline.Task.walk]

end ScriptOutline
