import ScriptOutline.Script.Lexical.Vocabulary

/-!
# The longest match

Of the terminals that are looked for at a place, the one that matches the longest text is taken.
Blanks before it are skipped, unless it has to follow at once. A terminal that is preferred to another
wins also against a longer match, and among those that match the same text the more specific wins.

All patterns are followed at the same time, one thread for each way to go on.
-/

namespace ScriptOutline

namespace Script

/-- A terminal that is being matched. -/
structure Thread where
  /-- The number of the terminal. -/
  terminal : Nat
  preference : Int
  specificity : Nat
  /-- Whether blanks may still come. -/
  isBefore : Bool
  /-- What has to follow. -/
  rest : Pattern

namespace Thread

/-- The threads with which matching starts, one for each terminal with a pattern. Words are matched
as names. -/
def starts : List Thread :=
  Terminal.all.zipIdx.filterMap fun (t, n) =>
    if t.isWord then none
    else
      (Vocabulary.pattern? t).map fun pattern =>
        { terminal := n, preference := t.preference, specificity := t.specificity,
          isBefore := !t.isImmediate, rest := pattern }

/-- Whether the thread has matched its terminal. -/
def isDone (thread : Thread) : Bool := !thread.isBefore && thread.rest.isNullable

/-- Of two threads that have matched the same text, the one that is meant. -/
def better (a b : Thread) : Thread :=
  if a.preference != b.preference then (if a.preference < b.preference then b else a)
  else if a.specificity != b.specificity then (if a.specificity < b.specificity then b else a)
  else if b.terminal < a.terminal then b else a

/-- The thread among several that has matched. -/
def done? (threads : List Thread) : Option Thread :=
  (threads.filter isDone).foldl (fun best thread =>
    match best with
    | none => some thread
    | some other => some (other.better thread)) none

/-- How a thread goes on after a character that it takes as part of its terminal. -/
def onward (c : Char) (thread : Thread) : List Thread :=
  (thread.rest.afterChar c).map fun rest => { thread with isBefore := false, rest }

/-- Whether a thread passes a character as a blank. -/
def passes (c : Char) (thread : Thread) : Bool := thread.isBefore && isBlank c

end Thread

/-- A terminal that was found, with where it is. -/
structure Match where
  terminal : Nat
  start : Place
  stop : Place

/-- How matching ended. -/
structure Search where
  /-- The match, if there is one. -/
  found : Option Match
  /-- Where the terminal would start: after the blanks. -/
  start : Place
  /-- How far the text was looked at. -/
  reached : Place

/-- The number of the end of the text. -/
def endNumber : Nat := Terminal.all.idxOf .endOfText

/-- Follows threads through a text. A thread that passes a blank moves the start, if no other thread
takes that character. -/
def follow (allowEnd : Bool) : List Char → Place → List Thread → Place → Option Match → Search
  | text, place, threads, start, best =>
    let finished := Thread.done? threads
    let best :=
      match finished with
      | some thread => some { terminal := thread.terminal, start, stop := place }
      | none => best
    match text with
    | [] =>
      if allowEnd && start.offset == place.offset then
        { found := some { terminal := endNumber, start := place, stop := place }, start,
          reached := place }
      else { found := best, start, reached := place }
    | c :: rest =>
      let passing := threads.filter (Thread.passes c)
      let taking := threads.flatMap (Thread.onward c)
      let isStuck := passing.isEmpty && taking.isEmpty
      let isWorse :=
        match finished with
        | none => false
        | some thread =>
          let preference := taking.foldl (fun best t => max best t.preference)
            (if passing.isEmpty then (taking.head?.map (·.preference)).getD 0 else 0)
          preference < thread.preference ||
            (preference == thread.preference && threads.any (·.isBefore) &&
              !((passing ++ taking).any (·.terminal == thread.terminal)))
      if isStuck || isWorse then { found := best, start, reached := place }
      else
        let place := place.past c rest
        follow allowEnd rest place (passing ++ taking) (if taking.isEmpty then place else start)
          best

/-- Looks for terminals at a place. -/
def longest (threads : List Thread) (allowEnd : Bool) (place : Place) : Search :=
  follow allowEnd place.rest place threads place none

end Script

end ScriptOutline
