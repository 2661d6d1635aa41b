import ScriptOutline.Script.Lexical.Lexer
import ScriptOutline.Script.Parsing.Pieces

/-!
# Constituents

What the reading of a text puts together: tokens, phrases, and what could not be read. A constituent
knows its extent, its weight and what its errors cost, so that two readings of the same text can be
compared, and it holds the pieces of syntax tree that it contributes to the phrase around it.
-/

namespace ScriptOutline

namespace Script

/-! ## What errors cost -/

namespace Cost

/-- The cost of an error. -/
def error : Nat := 500

/-- The further cost of a token that is missing. -/
def missing : Nat := 110

/-- The cost of a node that is passed over. -/
def node : Nat := 100

/-- The cost of a byte that is passed over. -/
def byte : Nat := 1

/-- The cost of a line break that is passed over. -/
def line : Nat := 30

/-- The cost of the text between two places. -/
def between (start stop : Place) : Nat :=
  byte * (stop.offset - start.offset) + line * (stop.row - start.row)

end Cost

/-- A part of a text that was read. -/
structure Constituent where
  symbol : Nat
  /-- The number of the production of a phrase. -/
  production : Option Nat := none
  children : List Constituent := []
  /-- Where the blanks before it start. -/
  before : Place
  start : Place
  stop : Place
  weight : Int := 0
  /-- What the errors in it cost. -/
  cost : Nat := 0
  /-- Whether it may stand anywhere, as comments may. -/
  isExtra : Bool := false
  /-- Whether it is spelled like a keyword. -/
  isKeyword : Bool := false
  /-- Whether it is not in the text but should be. -/
  isMissing : Bool := false
  /-- How many nodes it contributes if it has no node of its own. -/
  shownChildren : Nat := 0
  /-- How many nodes are below it. -/
  shownDescendants : Nat := 0
  /-- How many constituents it consists of. -/
  size : Nat := 1
  /-- The trees below it. -/
  pieces : Pieces := .nothing

namespace Constituent

/-- The text of a constituent. -/
def text (c : Constituent) : String := c.start.textTo c.stop

/-! ## Tokens -/

/-- The constituent of a token. -/
def ofToken (token : Token) : Constituent :=
  let isUnreadable := token.symbol == Table.unreadable
  { symbol := token.symbol, before := token.before, start := token.start, stop := token.stop,
    cost := if isUnreadable then Cost.error + Cost.between token.start token.stop else 0,
    isExtra := token.symbol == endNumber, isKeyword := token.isKeyword }

/-- A token that should be at a place. -/
def missing (symbol : Nat) (place : Place) : Constituent :=
  { symbol, before := place, start := place, stop := place,
    cost := Cost.missing + Cost.error, isMissing := true }

/-! ## Phrases -/

/-- Gives each child its step of a production. Those that may stand anywhere have none. -/
def align : List Constituent → List Step → List (Constituent × Option Step)
  | [], _ => []
  | child :: rest, steps =>
    if child.isExtra then (child, none) :: align rest steps
    else (child, steps.head?) :: align rest steps.tail

/-- Whether a child has a node of its own in a phrase. -/
def isShown (t : Table) (child : Constituent) (step : Option Step) : Bool :=
  !t.isHidden child.symbol ||
    match step with
    | none => false
    | some step =>
      step.shownAs.isSome ||
        match step.symbol with
        | .terminal terminal => terminal.isShownInPhrases
        | .phrase _ => false

/-- The trees that a child contributes to a phrase. A hidden child passes on what is below it. -/
def piecesIn (t : Table) (child : Constituent) (step : Option Step) : Pieces :=
  let role := step.bind (·.role)
  let kind := step.bind (·.shownAs)
  let own : Option Kind :=
    if child.symbol < t.base then t.terminals[child.symbol]?.bind Terminal.kind?
    else
      match t.phrases[child.symbol - t.base]? with
      | some (.node k) => some k
      | _ => none
  if isShown t child step then
    match kind.or own with
    | none => .one role (.token child.text)
    | some .regex => .one role (.leaf .regex child.text)
    | some k =>
      .one role (if child.symbol < t.base then .leaf k child.text else .node k child.pieces.toList)
  else
    match role with
    | none => child.pieces
    | some r => .playing r child.pieces

/-- What the children of an error cost besides their own errors. -/
def passedOverCost (t : Table) (child : Constituent) : Nat :=
  if child.isExtra || (child.symbol == Table.unreadable && child.children.isEmpty) then 0
  else if t.isHidden child.symbol then Cost.node * child.shownChildren
  else Cost.node

/-- Puts children together. A place is needed only if there are none. -/
def make (t : Table) (symbol : Nat) (production : Option Nat) (children : List Constituent)
    (place : Place) : Constituent :=
  let first := children.head?
  let before := (first.map (·.before)).getD place
  let start := (first.map (·.start)).getD place
  let stop := (children.getLast?.map (·.stop)).getD place
  let steps := ((production.bind (t.productions[·]?)).map (·.steps)).getD []
  let aligned := align children steps
  let isError := symbol == Table.unreadable || symbol == Table.skipped
  let inherited := children.foldl (fun cost child =>
    if child.symbol == Table.skipped then cost else cost + child.cost) 0
  let passedOver := children.foldl (fun cost child => cost + passedOverCost t child) 0
  { symbol, production, children, before, start, stop,
    weight := children.foldl (fun weight child => weight + child.weight) 0,
    cost := if isError then inherited + passedOver + Cost.error + Cost.between start stop
      else inherited,
    shownChildren := aligned.foldl (fun n (child, step) =>
      if isShown t child step then n + 1 else n + child.shownChildren) 0,
    shownDescendants := aligned.foldl (fun n (child, step) =>
      n + child.shownDescendants + if isShown t child step then 1 else 0) 0,
    size := children.foldl (fun n child => n + child.size) 1,
    pieces := if isError then .nothing
      else aligned.foldl (fun pieces (child, step) => pieces.append (piecesIn t child step)) .nothing }

/-- How much a constituent counts as progress. -/
def progress (t : Table) (c : Constituent) : Nat :=
  let isCounted := !t.isHidden c.symbol || c.symbol == Table.skipped
  c.shownDescendants + if isCounted then 1 else 0

/-! ## Comparison -/

/-- Compares pairs of constituents from the left to the right, each before its children: by symbol,
then by the number of children. -/
def compareAll : Nat → List (Constituent × Constituent) → Ordering
  | 0, _ => .eq
  | _, [] => .eq
  | fuel + 1, (a, b) :: rest =>
    match (compare a.symbol b.symbol).then (compare a.children.length b.children.length) with
    | .eq => compareAll fuel (a.children.zip b.children ++ rest)
    | order => order

/-- Whether a second reading of a text is better than a first one: by its errors, then by its weight,
then by the order of symbols. -/
def isImprovedBy (first second : Constituent) : Bool :=
  if second.cost != first.cost then second.cost < first.cost
  else if second.weight != first.weight then first.weight < second.weight
  else 0 < first.cost || compareAll first.size [(first, second)] == .gt

/-- Whether two constituents after the same one and of the same symbol are read as one. -/
def isLike (a b : Constituent) : Bool :=
  a.symbol == b.symbol &&
    ((0 < a.cost && 0 < b.cost) ||
      (a.start.offset - a.before.offset == b.start.offset - b.before.offset &&
        a.stop.offset - a.start.offset == b.stop.offset - b.start.offset &&
        a.children.length == b.children.length && a.isExtra == b.isExtra))

end Constituent

end Script

end ScriptOutline
