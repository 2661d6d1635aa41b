import ScriptOutline.Script.Lexical.Surroundings

/-!
# Tokens

The next token at a place, given which terminals are expected there. A name with the spelling of a
keyword is that keyword if the keyword is expected.

Where none of the expected terminals is found, any terminal will do, and where there is none at all,
the characters up to the next token become a token that cannot be read.
-/

namespace ScriptOutline

namespace Script

/-- A token. -/
structure Token where
  /-- The number of its terminal; that of unreadable text is `Table.unreadable`. -/
  symbol : Nat
  /-- Where the blanks before it start. -/
  before : Place
  start : Place
  stop : Place
  /-- Whether it is spelled like a keyword. -/
  isKeyword : Bool := false

namespace Lexer

/-- The number of names. -/
def identifierNumber : Nat := Terminal.all.idxOf .identifier

/-- The keywords with their numbers. -/
def words : List (String × Nat) :=
  Terminal.all.zipIdx.filterMap fun (t, n) =>
    match t with
    | .text spelling => if t.isWord then some (spelling, n) else none
    | _ => none

/-- The keywords. -/
def wordSet : TokenSet := words.foldl (fun set word => set.union (.single word.2)) 0

/-- What is looked for where anything may come. -/
def anything : List Thread :=
  Thread.starts.filter fun thread =>
    match Terminal.all[thread.terminal]? with
    | some t => !t.isGreedy
    | none => false

/-- What is looked for where some terminals are expected. -/
def threadsFor (expected : TokenSet) : List Thread :=
  let hasWord := expected &&& wordSet != 0
  Thread.starts.filter fun thread =>
    expected.has thread.terminal || (hasWord && thread.terminal == identifierNumber)

/-- The token that a match stands for, given which keywords count. -/
def tokenOf (counts : Nat → Bool) (before : Place) (found : Match) : Token :=
  let plain : Token :=
    { symbol := found.terminal, before, start := found.start, stop := found.stop }
  if found.terminal == identifierNumber then
    match words.find? fun word => word.1 == found.start.textTo found.stop with
    | some (_, n) =>
      { plain with symbol := if counts n then n else found.terminal, isKeyword := true }
    | none => plain
  else plain

/-- The end of the text that cannot be read. Each search passes at least one character, and the first
that finds something ends it. -/
def unreadableEnd : Nat → Place → Place
  | 0, stop => stop
  | fuel + 1, stop =>
    if stop.isAtEnd then stop
    else
      let search := longest anything true stop
      match search.found with
      | some _ => stop
      | none =>
        let reached := search.reached
        unreadableEnd fuel (if reached.offset == stop.offset then reached.next else reached)

/-- The next token where anything may come. -/
def anyToken (counts : Nat → Bool) (place : Place) : Token :=
  let search := longest anything true place
  match search.found with
  | some found => tokenOf counts place found
  | none =>
    let start := search.start
    let reached := search.reached
    let first := if reached.offset == start.offset then reached.next else reached
    { symbol := Table.unreadable, before := place, start,
      stop := unreadableEnd (first.rest.length + 1) first }

/-- The next token at a place. An empty token may be refused, so that the same place is not met
forever. -/
def next (expected : TokenSet) (allowEmpty : Bool) (place : Place) : Token :=
  let bySurroundings := (Surroundings.find expected place).filter fun found =>
    allowEmpty || place.offset < found.stop.offset
  match bySurroundings with
  | some found => { symbol := found.terminal, before := place, start := found.start,
                    stop := found.stop }
  | none =>
    match (longest (threadsFor expected) (expected.has endNumber) place).found with
    | some found => tokenOf expected.has place found
    | none => anyToken expected.has place

end Lexer

end Script

end ScriptOutline
