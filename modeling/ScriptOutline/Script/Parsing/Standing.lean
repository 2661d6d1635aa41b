import ScriptOutline.Script.Parsing.Reading

/-!
# How branches compare

Branches are compared by the cost of their errors. How far a branch has come since its last error
tells how much a difference in cost means: a branch that goes on well is soon taken for the right one.
-/

namespace ScriptOutline

namespace Script

/-- How well a branch does. -/
structure Standing where
  cost : Nat
  /-- The progress since the last error. -/
  progress : Nat
  weight : Int
  /-- Whether it is in an error. -/
  isInError : Bool

/-- Which of two branches to follow. -/
inductive Verdict where
  /-- The first one only. -/
  | onlyFirst
  | first
  | either
  | second
  /-- The second one only. -/
  | onlySecond
  deriving DecidableEq

namespace Standing

/-- How much one branch may cost more than another one, at most, to be followed with it. -/
def maxDifference : Nat := 18 * Cost.node

/-- Compares two branches. -/
def verdict (a b : Standing) : Verdict :=
  let isDecided (better worse : Standing) : Bool :=
    maxDifference < (worse.cost - better.cost) * (1 + better.progress)
  if !a.isInError && b.isInError then if a.cost < b.cost then .onlyFirst else .first
  else if a.isInError && !b.isInError then if b.cost < a.cost then .onlySecond else .second
  else if a.cost < b.cost then if isDecided a b then .onlyFirst else .first
  else if b.cost < a.cost then if isDecided b a then .onlySecond else .second
  else if b.weight < a.weight then .first
  else if a.weight < b.weight then .second
  else .either

end Standing

namespace Reading

/-- What the errors of a branch cost. An error that has just started counts already. -/
def errorCost (r : Reading) (b : Nat) : Nat :=
  let v := r.top b
  let isStarting := v.state.isNone &&
    match v.edges with
    | edge :: _ => edge.piece.isNone
    | [] => false
  if (r.branch b).isPaused || isStarting then v.cost + Cost.error else v.cost

/-- Notes if a branch has gone back behind its last error: progress then counts from where it is. -/
def settle (r : Reading) (b : Nat) : Reading :=
  let progress := (r.top b).progress
  r.modifyBranch b fun x => { x with progressAtError := min x.progressAtError progress }

/-- The progress of a branch since its last error. -/
def progressSinceError (r : Reading) (b : Nat) : Nat :=
  (r.top b).progress - (r.branch b).progressAtError

/-- How well a branch does. -/
def standing (r : Reading) (b : Nat) : Standing :=
  let v := r.top b
  let isPaused := (r.branch b).isPaused
  { cost := if isPaused then r.errorCost b + Cost.node else r.errorCost b,
    progress := r.progressSinceError b, weight := v.weight,
    isInError := isPaused || v.state.isNone }

/-- Whether a branch, if its errors cost so much, would not be worth following: there is a finished
reading, or another branch as far in the text, that does better. -/
def isOutdone (r : Reading) (b cost : Nat) : Bool × Reading :=
  if r.finished.any fun finished => finished.cost ≤ cost then (true, r)
  else
    let r := r.settle b
    let own : Standing :=
      { cost, progress := r.progressSinceError b, weight := (r.top b).weight, isInError := false }
    go own (List.range r.branches.size) r
where
  /-- Compares with other branches, one by one. -/
  go (own : Standing) : List Nat → Reading → Bool × Reading
    | [], r => (false, r)
    | other :: rest, r =>
      if other == b || !(r.branch other).isActive ||
          (r.top other).place.offset < (r.top b).place.offset then
        go own rest r
      else
        let r := r.settle other
        match own.verdict (r.standing other) with
        | .onlySecond => (true, r)
        | .second => if r.canMerge other b then (true, r) else go own rest r
        | _ => go own rest r

end Reading

end Script

end ScriptOutline
