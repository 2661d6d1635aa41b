import ScriptOutline.Script.Grammar.Tabulation
import ScriptOutline.Script.Parsing.Advance

/-!
# Reading a whole text

The branches take turns, one token each. After each turn they are compared: those that are clearly
worse are dropped, those that have come to the same are made one, and if all are paused, the best of
them goes on after its error. The text is read when a complete reading costs less than any other still
could.
-/

namespace ScriptOutline

namespace Script

namespace Reading

/-! ## Dropping branches -/

/-- Compares a branch, whose standing is given, with the earlier ones. The number of the next branch
to compare is given. -/
def compareWithEarlier (standing : Standing) : Nat → (b earlier : Nat) → Reading → Nat × Reading
  | 0, b, _, r => (b + 1, r)
  | fuel + 1, b, earlier, r =>
    if b ≤ earlier then (b + 1, r)
    else
      let r := r.settle earlier
      let canMerge := r.canMerge earlier b
      match (r.standing earlier).verdict standing with
      | .onlyFirst => (b, r.removeBranch b)
      | .onlySecond => compareWithEarlier standing fuel (b - 1) earlier (r.removeBranch earlier)
      | .second =>
        if canMerge then (b, r.merge earlier b)
        else
          let r := { r with branches := r.branches.swapIfInBounds b earlier }
          compareWithEarlier standing fuel b (earlier + 1) r
      | _ =>
        if canMerge then (b, r.merge earlier b)
        else compareWithEarlier standing fuel b (earlier + 1) r

/-- The lower of two costs, if there are any. -/
def lower (least : Option Nat) (cost : Nat) : Option Nat := some ((least.map (min cost)).getD cost)

/-- Compares all branches with the earlier ones. The least cost of a branch that is not in an error is
given. -/
def compareBranches : Nat → Nat → Option Nat → Reading → Option Nat × Reading
  | 0, _, least, r => (least, r)
  | fuel + 1, b, least, r =>
    if r.branches.size ≤ b then (least, r)
    else if (r.branch b).isHalted then compareBranches fuel b least (r.removeBranch b)
    else
      let r := r.settle b
      let standing := r.standing b
      let least := if standing.isInError then least else lower least standing.cost
      let (next, r) := compareWithEarlier standing (b + 1) b 0 r
      compareBranches fuel next least r

/-- Lets the first branch go on after its error if it is paused, and removes all other paused
branches. -/
def resume : Nat → Nat → (isGoingOn : Bool) → Option Nat → Reading → Option Nat × Reading
  | 0, _, _, least, r => (least, r)
  | fuel + 1, b, isGoingOn, least, r =>
    if r.branches.size ≤ b then (least, r)
    else
      match (r.branch b).status with
      | .paused token =>
        if !isGoingOn && r.finishedCount < maxBranches then
          let cost := r.errorCost b
          let r := r.modifyBranch b fun x => { x with status := .active }
          resume fuel (b + 1) true (some cost) (r.handleError b token)
        else resume fuel b isGoingOn least (r.removeBranch b)
      | _ => resume fuel (b + 1) true least r

/-- Keeps the branches that are worth following. The least that a reading can still cost is given. -/
def condense (r : Reading) : Option Nat × Reading :=
  let (least, r) := compareBranches (2 * r.branches.size + 1) 0 none r
  let r := { r with branches := r.branches.take maxBranches }
  resume (4 * maxBranches) 0 false least r

/-! ## Taking turns -/

/-- Lets a branch read until it has come further than all branches before. The offset that the
branches have come to is given. -/
def takeTurn (b : Nat) : Nat → (last : Nat) → Reading → Nat × Reading
  | 0, last, r => (last, r)
  | fuel + 1, last, r =>
    if (r.branch b).isActive then
      let r := r.advance b
      let offset := (r.top b).place.offset
      if last < offset || (0 < b && offset == last) then (offset, r)
      else takeTurn b fuel last r
    else (last, r)

/-- Lets all branches take a turn, those that are added on the way too. -/
def takeTurns (limit : Nat) : Nat → (b last : Nat) → Reading → Nat × Reading
  | 0, _, last, r => (last, r)
  | fuel + 1, b, last, r =>
    if r.branches.size ≤ b then (last, r)
    else
      let (last, r) := takeTurn b limit last r
      takeTurns limit fuel (b + 1) last r

/-- Whether a complete reading is better than any other can be. -/
def isSettled (r : Reading) (least : Option Nat) : Bool :=
  r.branches.isEmpty ||
    match r.finished, least with
    | some finished, some cost => finished.cost < cost
    | some _, none => true
    | none, _ => false

/-- Goes on until the text is read. -/
def run (limit : Nat) : Nat → (last : Nat) → Reading → Reading
  | 0, _, r => r
  | fuel + 1, last, r =>
    let (last, r) := takeTurns limit limit 0 last r
    let (least, r) := r.condense
    if r.isSettled least then r else run limit fuel last r

end Reading

/-- The most turns that a text of some length is given. Each turn passes a token, is about an error
or ends a branch. -/
def turnLimit (length : Nat) : Nat := 64 * (length + 64)

/-- Reads a text as a script. What cannot be read makes the result cost something. -/
def parse (text : List Char) : Option Constituent :=
  let limit := turnLimit text.length
  ((Reading.start table text).run limit limit 0).finished

end Script

end ScriptOutline
