import ScriptOutline.Script.Grammar.Strength

/-!
# States

While a text is read, a state says which items the reading may be at and, for each of them, which
terminals may follow its phrase. Only the items with something before their point are kept, and the
phrases that may begin here, each with what may follow it.

States are made when they are first met. The automaton holds those that were met, with the steps
between them, so that each is worked out once.
-/

namespace ScriptOutline

namespace Script

/-- An item with the terminals that may follow its phrase. -/
abbrev Expectation := Nat × TokenSet

/-- A state of the reading. -/
structure State where
  /-- The items that the reading may be at, in ascending order. -/
  kernel : List Expectation
  /-- By the number of a phrase among the phrases, what may follow it if it begins here; nothing if
  it cannot. -/
  beginning : Array TokenSet
  /-- The items at their end. -/
  complete : List Expectation
  /-- The terminals that continue an item or begin a phrase. -/
  continuing : TokenSet
  /-- The terminals that the reading can go on with, comments among them. -/
  expected : TokenSet
  /-- The states after the symbols that were asked for so far. -/
  successors : List (Nat × Nat)

/-- What to do with a token. -/
inductive Action where
  /-- Put it on the stack. In a repetition that could also end here it is left for later. -/
  | shift (isLater : Bool)
  /-- Put it on the stack as something that may stand anywhere. -/
  | extra
  /-- Make up a phrase first, from a number of symbols. -/
  | reduce (production phrase count : Nat) (weight : Int)
  /-- The text is read. -/
  | accept
  deriving DecidableEq

namespace State

/-- The terminals that may stand between any two tokens. -/
def extras : List Terminal := [.comment, .pageComment]

/-- The numbers of the terminals that may stand between any two tokens. -/
def extraNumbers : List Nat := extras.map Terminal.all.idxOf

/-- The set of the terminals that may stand between any two tokens. -/
def extraSet : TokenSet := extraNumbers.foldl (fun set n => set.union (.single n)) 0

/-- The phrases that begin here because of an item. -/
def begin (t : Table) (beginning : Array TokenSet) (expectation : Expectation) : Array TokenSet :=
  match t.items[expectation.1]? with
  | none => beginning
  | some item =>
    match item.next with
    | none => beginning
    | some symbol =>
      if symbol < t.base then beginning
      else
        let follow :=
          match item.afterNext with
          | some after => t.firstOf after
          | none => expectation.2
        (t.corners.getD (symbol - t.base) []).foldl (fun beginning corner =>
          let more := if corner.isWhole then corner.follow.union follow else corner.follow
          beginning.modify corner.phrase fun known => known.union more) beginning

/-- The state with given items. -/
def ofKernel (t : Table) (kernel : List Expectation) : State :=
  let beginning := kernel.foldl (begin t) (Array.replicate t.phrases.size 0)
  let nextOf (e : Expectation) : Option Nat := t.items[e.1]?.bind (·.next)
  let empties := t.empties.filterMap fun (phrase, item) =>
    match beginning.getD phrase 0 with
    | 0 => none
    | follow => some (item, follow)
  let complete := kernel.filter (fun e => (nextOf e).isNone) ++ empties
  let continuing := kernel.foldl (fun set e =>
    match nextOf e with
    | some symbol => set.union (t.firstOf symbol)
    | none => set) 0
  let ending := complete.foldl (fun set e => set.union e.2) 0
  { kernel, beginning, complete, continuing,
    expected := (continuing.union ending).union extraSet, successors := [] }

/-- Adds an item to a kernel. -/
def addItem : List Expectation → Nat → TokenSet → List Expectation
  | [], item, follow => [(item, follow)]
  | (other, known) :: rest, item, follow =>
    if item < other then (item, follow) :: (other, known) :: rest
    else if item == other then (other, known.union follow) :: rest
    else (other, known) :: addItem rest item follow

/-- The items after a symbol. -/
def kernelAfter (t : Table) (state : State) (symbol : Nat) : List Expectation :=
  let continued := state.kernel.foldl (fun kernel e =>
    match t.items[e.1]? with
    | some item =>
      if item.next == some symbol then addItem kernel item.advanced e.2 else kernel
    | none => kernel) []
  (t.starts.getD symbol []).foldl (fun kernel (phrase, item) =>
    match state.beginning.getD phrase 0 with
    | 0 => kernel
    | follow => addItem kernel item follow) continued

/-! ## Actions -/

/-- The reductions that a token calls for, as far as they are known. -/
structure Reductions where
  /-- The strongest reductions. -/
  actions : List Action := []
  /-- Their strength. -/
  side : Side := { rank := none, phrases := [] }
  associativities : List (Option Associativity) := []

/-- The reduction, or the acceptance, that a complete item stands for. -/
def actionAt (item : Item) : Action :=
  if item.phrase == Table.origin then .accept
  else .reduce item.production item.phrase item.before item.weight

/-- Takes one more reduction into account: a weaker one is dropped, a stronger one replaces all. -/
def addReduction (t : Table) (known : Reductions) (item : Item) : Reductions :=
  let phrase := (t.phrases[item.phrase - t.base]?).toList
  let single : Reductions :=
    { actions := [actionAt item], side := { rank := item.rank, phrases := phrase },
      associativities := [item.associativity] }
  if known.actions.isEmpty then single
  else
    match compareStrength single.side known.side with
    | .gt => single
    | .lt => known
    | .eq =>
      { actions := known.actions ++ single.actions,
        side := { rank := item.rank, phrases := known.side.phrases ++ phrase },
        associativities := known.associativities ++ [item.associativity] }

/-- The items that compete for a terminal by going on with it. -/
def competing (t : Table) (state : State) (terminal : Nat) : List Item :=
  state.kernel.filterMap fun e =>
    t.items[e.1]?.filter fun item =>
      0 < item.before &&
        match item.next with
        | some symbol => (t.firstOf symbol).has terminal
        | none => false

/-- Decides between going on with a terminal and the reductions that it calls for. What cannot be
decided stays open: both readings are followed. -/
def resolve (t : Table) (going ending : List Item) (reductions : Reductions) : List Action :=
  let owners := (going ++ ending).map (·.phrase)
  match owners with
  | [] => reductions.actions ++ [.shift false]
  | owner :: others =>
    if t.isRepetition owner && others.all (· == owner) then reductions.actions ++ [.shift true]
    else
      let comparisons := going.map fun item =>
        compareStrength
          { rank := item.rank, phrases := (t.phrases[item.phrase - t.base]?).toList }
          reductions.side
      let isMore := comparisons.contains .gt
      let isLess := comparisons.contains .lt
      if isMore && !isLess then [.shift false]
      else if isLess && !isMore then reductions.actions
      else if isMore && isLess then reductions.actions ++ [.shift false]
      else if reductions.associativities.all (· == some .left) then reductions.actions
      else if reductions.associativities.all (· == some .right) then [.shift false]
      else reductions.actions ++ [.shift false]

/-- What to do with a terminal. More than one action means that the text can be read in more than one
way so far. -/
def actions (t : Table) (state : State) (terminal : Nat) : List Action :=
  let ending := state.complete.filterMap fun e =>
    if e.2.has terminal then t.items[e.1]? else none
  let reductions := ending.foldl (addReduction t) {}
  if state.continuing.has terminal then
    if reductions.actions.isEmpty then [.shift false]
    else resolve t (competing t state terminal) ending reductions
  else if reductions.actions.isEmpty && extraNumbers.contains terminal then [.extra]
  else reductions.actions

end State

/-- The states that were met. -/
structure Automaton where
  states : Array State
  /-- By the first item of a kernel, the numbers of the states with such a kernel. -/
  byItem : Array (List Nat)

namespace Automaton

/-- The number of the first state. -/
def start : Nat := 0

/-- An automaton that has met the first state only. -/
def initial (t : Table) : Automaton :=
  let state := State.ofKernel t [(Table.startItem, .single (Terminal.all.idxOf .endOfText))]
  { states := #[state],
    byItem := (Array.replicate t.items.size []).setIfInBounds Table.startItem [start] }

/-- The state with a number. -/
def state? (a : Automaton) (number : Nat) : Option State := a.states[number]?

/-- The state with a kernel, which is made if it was not met yet. -/
def meet (t : Table) (a : Automaton) (kernel : List Expectation) : Nat × Automaton :=
  let key := (kernel.head?.map (·.1)).getD 0
  let known := (a.byItem.getD key []).find? fun n => (a.states[n]?.map (·.kernel)) == some kernel
  match known with
  | some n => (n, a)
  | none =>
    let n := a.states.size
    (n, { states := a.states.push (State.ofKernel t kernel),
          byItem := a.byItem.modify key (n :: ·) })

/-- The state after a symbol, if the symbol fits. -/
def after (t : Table) (a : Automaton) (number symbol : Nat) : Option Nat × Automaton :=
  match a.states[number]? with
  | none => (none, a)
  | some state =>
    match state.successors.find? (·.1 == symbol) with
    | some (_, n) => (some n, a)
    | none =>
      match state.kernelAfter t symbol with
      | [] => (none, a)
      | kernel =>
        let (n, a) := a.meet t kernel
        let note (s : State) : State := { s with successors := (symbol, n) :: s.successors }
        (some n, { a with states := a.states.modify number note })

end Automaton

end Script

end ScriptOutline
