import ScriptOutline.Script.Parsing.Standing

/-!
# After an error

A branch that meets a token it can do nothing with has three ways to go on. A token may be missing
before it. What was read since some milestone may be an error, so that the branch goes back to the
state there and on with the token. Or the token itself may be passed over. The ways are followed at
the same time as far as they are not clearly worse than others.
-/

namespace ScriptOutline

namespace Script

namespace Reading

/-- How many branches are followed at the same time. -/
def maxBranches : Nat := 6

/-- The numbers of the terminals, without the end of the text. -/
def tokenNumbers (r : Reading) : List Nat := (List.range r.table.base).drop 1

/-! ## The end of the text -/

/-- The whole text, put together from what is on the stack. The last constituent that may not stand
anywhere holds all others. -/
def wholeText (r : Reading) (pieces : List Constituent) : Option Constituent :=
  let reversed := pieces.reverse
  match reversed.dropWhile (·.isExtra) with
  | [] => none
  | root :: earlier =>
    let later := (reversed.takeWhile (·.isExtra)).reverse
    some (Constituent.make r.table root.symbol root.production
      (earlier.reverse ++ root.children ++ later) root.before)

/-- Takes a complete reading into account. -/
def finish (r : Reading) (pieces : List Constituent) : Reading :=
  match r.wholeText pieces with
  | none => r
  | some root =>
    let isBest :=
      match r.finished with
      | none => true
      | some other => other.isImprovedBy root
    { r with
      finished := if isBest then some root else r.finished,
      finishedCount := r.finishedCount + 1 }

/-- Completes a branch at the end of the text. -/
def accept (r : Reading) (b : Nat) (token : Constituent) : Reading :=
  let r := r.push b (some token) (some Automaton.start)
  let judge (_ : Unit) (v : Vertex) (_ : Stack.Path) : Stack.Fate × Unit :=
    ({ isFound := v.edges.isEmpty, isDone := false }, ())
  let found := (r.stack.walk (r.branch b).vertex () judge).found.reverse
  (found.foldl (fun r path => r.finish path.pieces) r).halt b

/-! ## Going back -/

/-- How far down a branch can go back. -/
def maxDepth : Nat := 32

/-- Notes the points to which a branch can go back. -/
def noteMilestones (r : Reading) (b : Nat) : Reading :=
  let judge (known : List Milestone) (v : Vertex) (path : Stack.Path) :
      Stack.Fate × List Milestone :=
    if maxDepth < path.length then ({ isFound := false, isDone := true }, known)
    else
      let isKnown := (known.takeWhile fun m => path.length ≤ m.depth).any fun m =>
        m.depth == path.length && m.state == v.state
      ({ isFound := false, isDone := false },
        if isKnown then known
        else { place := v.place, depth := path.length, state := v.state } :: known)
  let milestones := (r.stack.walk (r.branch b).vertex [] judge).notes.reverse
  r.modifyBranch b fun x => { x with milestones := some milestones }

/-- The error that ends at a vertex, if there is one, with the vertex before it. -/
def errorAt (s : Stack) (n : Nat) : Option (Nat × Constituent) :=
  let isUnreadable (c : Constituent) : Bool := c.symbol == Table.unreadable
  if (s.vertex n).edges.any fun edge => edge.piece.any isUnreadable then
    let judge (isFound : Bool) (_ : Vertex) (path : Stack.Path) : Stack.Fate × Bool :=
      match path.pieces with
      | [] => ({ isFound := false, isDone := false }, isFound)
      | piece :: _ =>
        let isNew := !isFound && isUnreadable piece
        ({ isFound := isNew, isDone := true }, isFound || isNew)
    (s.walk n false judge).found.getLast?.bind fun path =>
      path.pieces.head?.map fun piece => (path.vertex, piece)
  else none

/-- Goes back along one of the ways down from a branch: what was read since then is an error. An error
right before it is continued. -/
def goBackAlong (r : Reading) (b : Nat) (state : Option Nat) (ways : Stack.Ways) : Reading :=
  let new := r.branches.size
  let progressAtError := (r.branch b).progressAtError
  let pieces := ways.alternatives.headD []
  let (base, pieces) :=
    match errorAt r.stack ways.base with
    | some (base, error) => (base, error.children ++ pieces)
    | none => (ways.base, pieces)
  let r := r.addBranch { vertex := base, progressAtError }
  let (children, extras) := splitExtras pieces
  let r :=
    if children.isEmpty then r
    else
      let error := Constituent.make r.table Table.unreadable none children (r.top new).place
      r.push new (some { error with isExtra := true }) state
  r.pushAll new extras state

/-- Goes back down the stack of a branch to vertices with a given state. What comes of it are new
branches. -/
def goBack (r : Reading) (b depth : Nat) (state : Option Nat) : Reading :=
  let ways := (r.stack.waysDown (r.branch b).vertex depth).filter fun ways =>
    (r.stack.vertex ways.base).state == state
  ways.foldl (fun r way => r.goBackAlong b state way) r

/-- Goes back to the first milestone from which the branch could go on with a token. Whether there is
one is told too. -/
def tryMilestones (b : Nat) (token : Constituent) (earlier cost progress : Nat) :
    List Milestone → Reading → Bool × Reading
  | [], r => (false, r)
  | milestone :: rest, r =>
    let place := (r.top b).place
    let isTaken := (List.range earlier).any fun other =>
      (r.top other).state == milestone.state && (r.top other).place.offset == place.offset
    if milestone.state.isNone || milestone.place.offset == place.offset || isTaken then
      tryMilestones b token earlier cost progress rest r
    else
      let total := cost + milestone.depth * Cost.node + Cost.between milestone.place place
      let (isOutdone, r) := r.isOutdone b total
      if isOutdone then (false, r)
      else if (r.actions milestone.state token.symbol).isEmpty then
        tryMilestones b token earlier cost progress rest r
      else
        let depth := if 0 < progress then milestone.depth + 1 else milestone.depth
        let count := r.branches.size
        let r := r.goBack b depth milestone.state
        if count < r.branches.size then (true, r)
        else tryMilestones b token earlier cost progress rest r

/-! ## Passing over -/

/-- Whether a token may stand anywhere. -/
def mayStandAnywhere (r : Reading) (symbol : Nat) : Bool :=
  (r.actions (some Automaton.start) symbol).getLast? == some .extra

/-- Passes over a token. What was passed over before becomes one error with it. -/
def passOver (r : Reading) (b : Nat) (token : Constituent) (progress : Nat) : Reading :=
  let token := if r.mayStandAnywhere token.symbol then
      { token with isExtra := true, isKeyword := false }
    else token
  let skip (children : List Constituent) : Constituent :=
    Constituent.make r.table Table.skipped none children token.before
  let error := skip [token]
  if 0 < progress then
    match r.stack.waysDown (r.branch b).vertex 1 with
    | [] => r.push b (some error) none
    | ways :: _ =>
      let pieces := ways.alternatives.headD []
      let r := r.modifyBranch b fun x => { x with vertex := ways.base, status := .active }
      r.push b (some (skip (pieces ++ [error]))) none
  else r.push b (some error) none

/-- Goes on with a branch that is in an error. -/
def recover (r : Reading) (b : Nat) (token : Constituent) : Reading :=
  let earlier := r.branches.size
  let r := r.settle b
  let progress := r.progressSinceError b
  let cost := r.errorCost b
  let milestones := ((r.branch b).milestones).getD []
  let (isBack, r) :=
    if token.symbol == Table.unreadable then (false, r)
    else tryMilestones b token earlier cost progress milestones r
  if isBack && maxBranches < r.branches.size then r.halt b
  else if token.symbol == endNumber then
    let error := Constituent.make r.table Table.unreadable none [] (r.top b).place
    (r.push b (some error) (some Automaton.start)).accept b token
  else
    let total := cost + Cost.node + Cost.between token.before token.stop
    let (isOutdone, r) := r.isOutdone b total
    if isOutdone then r.halt b else r.passOver b token progress

/-! ## Missing tokens -/

/-- The phrases that could be made up in a state before some tokens, and whether one of the tokens
could be read in it. -/
def potential (r : Reading) (state : Option Nat) (symbols : List Nat) : List Action × Bool :=
  symbols.foldl (fun found symbol =>
    (r.actions state symbol).foldl (fun (phrases, canGoOn) action =>
      match action with
      | .shift isLater => (phrases, canGoOn || !isLater)
      | .reduce _ phrase count _ =>
        let isKnown := phrases.any fun known =>
          match known with
          | .reduce _ other n _ => other == phrase && n == count
          | _ => false
        if count == 0 || isKnown then (phrases, canGoOn)
        else (phrases ++ [action], canGoOn)
      | _ => (phrases, canGoOn)) found) ([], state.isNone)

/-- Makes up several phrases, each from the same branch. The number of the first branch that comes of
the last one is given. -/
def reduceEach (r : Reading) (b : Nat) (phrases : List Action) : Option Nat × Reading :=
  phrases.foldl (fun (acc : Option Nat × Reading) action =>
    match action with
    | .reduce production phrase count weight => acc.2.reduce b production phrase count weight
    | _ => acc) (none, r)

/-- Makes up all phrases that a branch, and what comes of it, could make up before some tokens. Tells
whether one of the tokens could then be read. With `isExact`, branches that cannot read one are
removed. -/
def reduceAll (isExact : Bool) (symbols : List Nat) (b initial : Nat) :
    Nat → (round current : Nat) → (canGoOn : Bool) → Reading → Bool × Reading
  | 0, _, _, canGoOn, r => (canGoOn, r)
  | fuel + 1, round, current, canGoOn, r =>
    let count := r.branches.size
    if count ≤ current then (canGoOn, r)
    else
      match r.mergeable? ((List.range current).drop initial) current with
      | some other =>
        reduceAll isExact symbols b initial fuel (round + 1) current canGoOn
          (r.merge other current)
      | none =>
        let (phrases, reads) := r.potential (r.top current).state symbols
        let (made, r) := r.reduceEach current phrases
        let next := if current == b then count else current + 1
        match reads, made with
        | true, _ => reduceAll isExact symbols b initial fuel (round + 1) next true r
        | false, some new =>
          if round < maxBranches then
            reduceAll isExact symbols b initial fuel (round + 1) current canGoOn
              (r.replaceBranch new current)
          else
            reduceAll isExact symbols b initial fuel (round + 1) next canGoOn
              (if isExact then r.removeBranch current else r)
        | false, none =>
          reduceAll isExact symbols b initial fuel (round + 1) next canGoOn
            (if isExact then r.removeBranch current else r)

/-- Makes up all phrases that a branch could make up, before one token or before any. -/
def reducePossible (r : Reading) (b : Nat) (symbol : Option Nat) : Bool × Reading :=
  let symbols := (symbol.map fun s => [s]).getD r.tokenNumbers
  reduceAll symbol.isSome symbols b r.branches.size 1000 0 b false r

/-- The state after a token, if the token can be read at once. -/
def afterToken (r : Reading) (state : Option Nat) (symbol : Nat) : Option Nat × Reading :=
  match (r.actions state symbol).getLast? with
  | some (.shift _) => r.after state symbol
  | _ => (none, r)

/-- Whether a token calls for a phrase to be made up. -/
def callsForPhrase (r : Reading) (state : Option Nat) (symbol : Nat) : Bool :=
  match r.actions state symbol with
  | .reduce .. :: _ => true
  | _ => false

/-- Tries terminals one by one: if one were in the text before a token, the branch could go on. The
first with which it can is taken, on a new branch. Whether there is one is told too. -/
def tryMissing (b : Nat) (place : Place) (token : Constituent) :
    List Nat → Reading → Bool × Reading
  | [], r => (false, r)
  | symbol :: rest, r =>
    let state := (r.top b).state
    let (next, r) := r.afterToken state symbol
    if next.isNone || next == state || !r.callsForPhrase next token.symbol then
      tryMissing b place token rest r
    else
      let new := r.branches.size
      let r := r.addBranch { r.branch b with milestones := none }
      let r := r.push new (some (Constituent.missing symbol place)) next
      let (canGoOn, r) := r.reducePossible new (some token.symbol)
      if canGoOn then (true, r) else tryMissing b place token rest r

/-- Lets branches enter an error, and for the first of them that can go on with a missing token adds
a branch with it. -/
def enterError (place : Place) (token : Constituent) :
    List Nat → (isMissingFound : Bool) → Reading → Reading
  | [], _, r => r
  | b :: rest, isFound, r =>
    let (isFound, r) := if isFound then (true, r) else tryMissing b place token r.tokenNumbers r
    enterError place token rest isFound (r.push b none none)

/-- Goes on with a branch after a token that does not fit. -/
def handleError (r : Reading) (b : Nat) (token : Constituent) : Reading :=
  let before := r.branches.size
  let (_, r) := r.reducePossible b none
  let count := r.branches.size
  let others := (List.range count).drop before
  let place := (r.top b).place
  let r := enterError place token (b :: others) false r
  let r := others.foldl (fun r _ => if r.canMerge b before then r.merge b before else r) r
  (r.noteMilestones b).recover b token

end Reading

end Script

end ScriptOutline
