import Mathlib.Algebra.GroupWithZero.Nat
import Mathlib.Tactic.Common
import ScriptOutline.Proofs.Outline.Walk

/-!
# The lines that statements take

How many lines a statement takes is a matter of its shape (`Node.cost`). Where it starts only decides
how far down its records stand, and not what they say.

Both facts are one law of walks (`Walk.Moves`): the line after a walk is a fixed number of lines below
the line before it, and a walk that starts lower finds the same records that much lower. The walks
that the outline is put together from obey the law, and walks in a row obey it with the sum of their
numbers. So the outline of a program is put together from those of its statements.
-/

namespace ScriptOutline

/-- The same record some lines further down. -/
def Record.lowered (lines : Nat) (r : Record) : Record := { r with line := r.line + lines }

namespace Walk

/-- The walk goes down a fixed number of lines, and if it starts lower, its records stand lower. -/
structure Moves (w : Walk) (lines : Nat) : Prop where
  line : ∀ start, (w start).line = start + lines
  records : ∀ start down, (w (start + down)).records = (w start).records.map (·.lowered down)

theorem moves_idle : Moves idle 0 := ⟨fun _ => rfl, fun _ _ => rfl⟩

theorem moves_advance : Moves advance 1 := ⟨fun _ => rfl, fun _ _ => rfl⟩

theorem moves_emit {records : Nat → List Record}
    (h : ∀ line down, records (line + down) = (records line).map (·.lowered down)) :
    Moves (emit records) 0 :=
  ⟨fun _ => rfl, h⟩

namespace Moves

variable {first second : Walk} {a b : Nat}

/-- A walk that starts where another one ends. -/
theorem records_after (h : Moves first a) (h' : Moves second b) (start : Nat) :
    (second (first start).line).records = (second start).records.map (·.lowered a) := by
  rw [h.line start, h'.records start a]

theorem andThen (h : Moves first a) (h' : Moves second b) :
    Moves (first.andThen second) (a + b) := by
  constructor
  · intro start
    rw [Walk.andThen, h'.line, h.line, Nat.add_assoc]
  · intro start down
    have hstart : start + down + a = start + a + down := Nat.add_right_comm start down a
    simp only [Walk.andThen, h.line, h.records start down, hstart, h'.records (start + a) down,
      List.map_append]

/-- A walk that emits records, goes to the next line and on from there. -/
theorem header {records : Nat → List Record}
    (hrecords : ∀ line down, records (line + down) = (records line).map (·.lowered down))
    (h : Moves second b) : Moves ((emit records).andThen (advance.andThen second)) (1 + b) := by
  have hall := (moves_emit hrecords).andThen (moves_advance.andThen h)
  rwa [Nat.zero_add] at hall

end Moves

end Walk

namespace Node

open Walk

mutual

/-- The number of lines that a tree takes. -/
def cost : Node → Nat
  | .program body => lineCosts body
  | .function _ _ body => 1 + body.cost
  | .block body => costs body
  | .variables _ declarations => 1 + costs declarations
  | .expression _ => 1
  | .while _ body => 2 + body.cost
  | .if _ consequent alternate => 2 + consequent.cost + costOption alternate
  | .for _ _ _ body => 2 + body.cost
  | .unsupported _ _ children => costs children
  | .declarator .. | .assignment .. | .return _ | .member .. | .binary .. | .logical .. | .unary ..
  | .literal _ | .identifier _ => 0

/-- The number of lines that trees take together. -/
def costs : List Node → Nat
  | [] => 0
  | n :: rest => n.cost + costs rest

/-- The number of lines that trees take together if each one starts on a line of its own. -/
def lineCosts : List Node → Nat
  | [] => 0
  | n :: rest => 1 + n.cost + lineCosts rest

/-- The number of lines that a tree takes if there is one. -/
def costOption : Option Node → Nat
  | none => 0
  | some n => n.cost

end

theorem lineCosts_eq_sum (nodes : List Node) :
    lineCosts nodes = (nodes.map fun n => 1 + n.cost).sum := by
  induction nodes with
  | nil => rfl
  | cons n rest ih => rw [lineCosts, ih, List.map_cons, List.sum_cons]

mutual

/-- The walk over a tree goes down as many lines as the tree takes. -/
theorem moves_walk : ∀ n : Node, Moves n.walk n.cost
  | .program body => by
    rw [walk, cost]
    exact moves_walkProgram body
  | .function id params body => by
    rw [walk, cost]
    refine .header (fun line down => ?_) (moves_walk body)
    simp [Record.lowered, Record.named]
  | .block body => by
    rw [walk, cost]
    exact moves_walkAll body
  | .variables keyword declarations => by
    rw [walk, cost, Nat.add_comm]
    exact (moves_walkAll declarations).andThen moves_advance
  | .declarator id init => by
    rw [walk, cost]
    exact moves_emit fun line down => rfl
  | .expression e => by
    -- Only an assignment is walked over, and that stays on its line.
    have he : Moves (if e.isAssignment then e.walk else idle) 0 := by
      cases e with
      | assignment operator left right =>
        have hassignment := moves_walk (.assignment operator left right)
        rwa [cost] at hassignment
      | _ => exact moves_idle
    rw [walk, cost]
    exact he.andThen moves_advance
  | .assignment operator left right => by
    rw [walk, cost]
    exact moves_emit fun line down => rfl
  | .while test body => by
    have hcost : 2 + body.cost = 1 + (body.cost + 1) := by omega
    rw [walk, cost, hcost]
    exact .header (fun line down => rfl) ((moves_walk body).andThen moves_advance)
  | .if test consequent alternate => by
    have hcost : 2 + consequent.cost + costOption alternate =
        1 + (consequent.cost + (costOption alternate + 1)) := by omega
    rw [walk, cost, hcost]
    exact .header (fun line down => rfl)
      ((moves_walk consequent).andThen ((moves_walkOption alternate).andThen moves_advance))
  | .for init test update body => by
    have hcost : 2 + body.cost = 1 + (body.cost + 1) := by omega
    rw [walk, cost, hcost]
    exact .header (fun line down => rfl) ((moves_walk body).andThen moves_advance)
  | .return argument => by
    rw [walk, cost]
    exact moves_emit fun line down => rfl
  | .unsupported kind name children => by
    rw [walk, cost]
    exact moves_walkAll children
  | .member .. | .binary .. | .logical .. | .unary .. | .literal _ | .identifier _ => moves_idle

theorem moves_walkAll : ∀ nodes : List Node, Moves (walkAll nodes) (costs nodes)
  | [] => moves_idle
  | n :: rest => (moves_walk n).andThen (moves_walkAll rest)

theorem moves_walkProgram : ∀ nodes : List Node, Moves (walkProgram nodes) (lineCosts nodes)
  | [] => moves_idle
  | n :: rest => by
    rw [walkProgram, lineCosts, Nat.add_assoc]
    exact moves_advance.andThen ((moves_walk n).andThen (moves_walkProgram rest))

theorem moves_walkOption : ∀ o : Option Node, Moves (walkOption o) (costOption o)
  | none => moves_idle
  | some n => moves_walk n

end

theorem walkProgram_append (xs ys : List Node) :
    walkProgram (xs ++ ys) = (walkProgram xs).andThen (walkProgram ys) := by
  induction xs with
  | nil => rw [List.nil_append, walkProgram, idle_andThen]
  | cons x xs ih => rw [List.cons_append, walkProgram, walkProgram, ih, andThen_assoc, andThen_assoc]

/-- The records of statements in a row are those that their walk finds from line zero on. -/
theorem outline_program (nodes : List Node) :
    (program nodes).outline = (walkProgram nodes 0).records := by
  rw [outline, Outline.run_eq_walkTasks, Outline.walkTasks, Outline.walkTasks, Walk.andThen_idle,
    Outline.Task.walk, walk]

theorem outline_append (xs ys : List Node) :
    (program (xs ++ ys)).outline =
      (program xs).outline ++ (program ys).outline.map (·.lowered (lineCosts xs)) := by
  have hafter := (moves_walkProgram xs).records_after (moves_walkProgram ys) 0
  rw [outline_program, outline_program, outline_program, walkProgram_append, andThen, hafter]

/-- Statements after a first one stand below it and below what is in front of it. -/
theorem outline_cons_lowered (x : Node) (ys : List Node) (lines : Nat) :
    (program (x :: ys)).outline.map (·.lowered lines) =
      (program [x]).outline.map (·.lowered lines) ++
        (program ys).outline.map (·.lowered (lines + (1 + x.cost))) := by
  have hlowered (r : Record) :
      (r.lowered (1 + x.cost)).lowered lines = r.lowered (lines + (1 + x.cost)) := by
    rw [Record.lowered, Record.lowered, Record.lowered, Nat.add_assoc, Nat.add_comm lines]
  have happend := outline_append [x] ys
  rw [List.singleton_append, lineCosts, lineCosts, Nat.add_zero] at happend
  rw [happend, List.map_append, List.map_map]
  simp only [Function.comp_def, hlowered]

/-- The outline of statements in a row is that of the first ones, followed by that of the others as
many lines further down as the first ones take: a line for each statement, and what it costs. So what
is appended changes nothing above it, and a statement in the middle decides about its own records and
about how far down the later ones stand. -/
theorem outline_compositional (xs ys : List Node) :
    (program (xs ++ ys)).outline =
      (program xs).outline ++
        (program ys).outline.map (·.lowered (xs.map fun x => 1 + x.cost).sum) ∧
    ∀ x, (program (xs ++ x :: ys)).outline =
      (program xs).outline ++
        ((program [x]).outline.map (·.lowered (xs.map fun x => 1 + x.cost).sum) ++
          (program ys).outline.map
            (·.lowered ((xs.map fun x => 1 + x.cost).sum + (1 + x.cost)))) := by
  rw [← lineCosts_eq_sum]
  refine ⟨outline_append xs ys, fun x => ?_⟩
  rw [outline_append, outline_cons_lowered]

end Node

end ScriptOutline
