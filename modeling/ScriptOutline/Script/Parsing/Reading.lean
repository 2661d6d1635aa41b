import ScriptOutline.Script.Parsing.Automaton
import ScriptOutline.Script.Parsing.Stack

/-!
# Readings

All the ways in which a text is being read. Each is a branch, which stands at a vertex of the stack.
The branches are ordered: new ones come last, and of two that come to the same state at the same place
the earlier one takes over what the later one has read.

A branch that meets a token it can do nothing with pauses; one that is given up is halted.
-/

namespace ScriptOutline

namespace Script

/-- Whether a branch goes on. -/
inductive Status where
  | active
  /-- It has met a token that does not fit. -/
  | paused (token : Constituent)
  | halted

/-- A point to which a branch could go back after an error. -/
structure Milestone where
  place : Place
  /-- How far down the stack it is. -/
  depth : Nat
  state : Option Nat

/-- One way to read the text. -/
structure Branch where
  /-- The number of the vertex at which it stands. -/
  vertex : Nat
  status : Status := .active
  /-- The progress at its last error. -/
  progressAtError : Nat := 0
  /-- The points to which it could go back, once it has met an error; the latest first. -/
  milestones : Option (List Milestone) := none

namespace Branch

/-- Whether the branch is active. -/
def isActive (b : Branch) : Bool :=
  match b.status with
  | .active => true
  | _ => false

/-- Whether the branch is paused. -/
def isPaused (b : Branch) : Bool :=
  match b.status with
  | .paused _ => true
  | _ => false

/-- Whether the branch is halted. -/
def isHalted (b : Branch) : Bool :=
  match b.status with
  | .halted => true
  | _ => false

end Branch

/-- A text that is being read. -/
structure Reading where
  table : Table
  automaton : Automaton
  stack : Stack
  branches : Array Branch
  /-- The best of the complete readings. -/
  finished : Option Constituent := none
  /-- How many complete readings there were. -/
  finishedCount : Nat := 0

namespace Reading

/-- A reading that has not started yet. -/
def start (t : Table) (text : List Char) : Reading :=
  { table := t, automaton := Automaton.initial t,
    stack := { vertices := #[{ state := some Automaton.start, place := Place.startOf text }] },
    branches := #[{ vertex := 0 }] }

/-! ## Branches -/

/-- The branch with a number. -/
def branch (r : Reading) (b : Nat) : Branch := r.branches.getD b { vertex := 0, status := .halted }

/-- The vertex at which a branch stands. -/
def top (r : Reading) (b : Nat) : Vertex := r.stack.vertex (r.branch b).vertex

/-- Changes a branch. -/
def modifyBranch (r : Reading) (b : Nat) (f : Branch → Branch) : Reading :=
  { r with branches := r.branches.modify b f }

/-- Adds a branch. -/
def addBranch (r : Reading) (b : Branch) : Reading := { r with branches := r.branches.push b }

/-- Removes a branch. -/
def removeBranch (r : Reading) (b : Nat) : Reading :=
  { r with branches := r.branches.eraseIdxIfInBounds b }

/-- Gives a branch up. -/
def halt (r : Reading) (b : Nat) : Reading := r.modifyBranch b fun x => { x with status := .halted }

/-- Moves a branch to the place of an earlier one, which it replaces. -/
def replaceBranch (r : Reading) (b earlier : Nat) : Reading :=
  if b == earlier then r
  else
    let branch := r.branch b
    let milestones := branch.milestones.or (r.branch earlier).milestones
    (r.modifyBranch earlier fun _ => { branch with milestones }).removeBranch b

/-! ## States -/

/-- What a branch in some state can do with a token. -/
def actions (r : Reading) (state : Option Nat) (symbol : Nat) : List Action :=
  match state.bind r.automaton.state? with
  | some s => if symbol < r.table.base then s.actions r.table symbol else []
  | none => []

/-- The state after a symbol. -/
def after (r : Reading) (state : Option Nat) (symbol : Nat) : Option Nat × Reading :=
  match state with
  | none => (none, r)
  | some n =>
    let (next, automaton) := r.automaton.after r.table n symbol
    (next, { r with automaton })

/-! ## Going on -/

/-- Puts a constituent on the stack of a branch. Without one, the branch is in an error from here
on. -/
def push (r : Reading) (b : Nat) (piece : Option Constituent) (state : Option Nat) : Reading :=
  let branch := r.branch b
  let edge := Edge.across r.table branch.vertex piece
  let v := (r.stack.vertex branch.vertex).after edge state
  let n := r.stack.vertices.size
  let progressAtError := if piece.isSome then branch.progressAtError else v.progress
  { r with
    stack := r.stack.push v,
    branches := r.branches.modify b fun x => { x with vertex := n, progressAtError } }

/-- Puts several constituents on the stack of a branch without a change of state. -/
def pushAll (r : Reading) (b : Nat) (pieces : List Constituent) (state : Option Nat) : Reading :=
  pieces.foldl (fun r piece => r.push b (some piece) state) r

/-- Whether two branches can become one. -/
def canMerge (r : Reading) (a b : Nat) : Bool :=
  (r.branch a).isActive && (r.branch b).isActive && (r.top a).isLike (r.top b)

/-- Makes two branches one. -/
def merge (r : Reading) (a b : Nat) : Reading :=
  let target := (r.branch a).vertex
  let source := (r.branch b).vertex
  let r := { r with stack := r.stack.join target source }
  let v := r.stack.vertex target
  let r := if v.state.isNone then
      r.modifyBranch a fun x => { x with progressAtError := v.progress }
    else r
  r.removeBranch b

/-- The first of some branches with which a branch can become one. -/
def mergeable? (r : Reading) (candidates : List Nat) (b : Nat) : Option Nat :=
  candidates.find? fun a => r.canMerge a b

/-! ## Phrases -/

/-- Divides constituents into those of a phrase and those after it that may stand anywhere. -/
def splitExtras (pieces : List Constituent) : List Constituent × List Constituent :=
  let reversed := pieces.reverse
  ((reversed.dropWhile (·.isExtra)).reverse, (reversed.takeWhile (·.isExtra)).reverse)

/-- How many branches there may be for a further one to be added. -/
def maxNewBranch : Nat := 10

/-- The best phrase among several ways to make it up, with what follows it. -/
def bestPhrase (r : Reading) (symbol : Nat) (production : Nat) (place : Place) :
    List (List Constituent) → Option (Constituent × List Constituent) :=
  List.foldl (fun best pieces =>
    let (children, extras) := splitExtras pieces
    let phrase := Constituent.make r.table symbol (some production) children place
    match best with
    | none => some (phrase, extras)
    | some (other, otherExtras) =>
      if other.isImprovedBy phrase then some (phrase, extras) else some (other, otherExtras)) none

/-- Makes up a phrase on one of the ways down from a branch; that is a new branch. -/
def reduceAlong (r : Reading) (b production symbol : Nat) (weight : Int) (ways : Stack.Ways) :
    Reading :=
  let new := r.branches.size
  if maxNewBranch < new then r
  else
    let base := r.stack.vertex ways.base
    match r.bestPhrase symbol production base.place ways.alternatives with
    | none => r
    | some (phrase, extras) =>
      let (state, r) := r.after base.state symbol
      let phrase := { phrase with weight := phrase.weight + weight }
      let progressAtError := (r.branch b).progressAtError
      let r := r.addBranch { vertex := ways.base, progressAtError }
      let r := (r.push new (some phrase) state).pushAll new extras state
      match r.mergeable? ((List.range new).filter (· != b)) new with
      | some a => r.merge a new
      | none => r

/-- Makes up a phrase at the end of a branch. What comes of it are new branches; the number of the
first is given, if there is one. -/
def reduce (r : Reading) (b production symbol count : Nat) (weight : Int) : Option Nat × Reading :=
  let first := r.branches.size
  let ways := r.stack.waysDown (r.branch b).vertex count
  let r := ways.foldl (fun r way => r.reduceAlong b production symbol weight way) r
  (if first < r.branches.size then some first else none, r)

end Reading

end Script

end ScriptOutline
