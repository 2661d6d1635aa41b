import ScriptOutline.Script.Grammar.Table

/-!
# Tabulation

Works out the table of the language from its productions.

A point of a production is an `Item`. Points that call for the same continuation and end in the same
kind of node are one item, even if they belong to productions that begin differently. The items are
numbered by the length of what is before the point, then by phrase, weight and length.
-/

namespace ScriptOutline

namespace Script

namespace Table

/-- The number of a symbol. -/
def numberOf : Symbol → Nat
  | .terminal t => Terminal.all.idxOf t
  | .phrase p => Terminal.all.length + Grammar.phrases.idxOf p

/-- A production with the numbers of its symbols. -/
structure Numbered where
  production : Production
  /-- The number of the phrase among the phrases. -/
  phrase : Nat
  symbols : List Nat

/-- All productions with numbers. -/
def numbered : List Numbered :=
  Grammar.productions.map fun p =>
    { production := p, phrase := Grammar.phrases.idxOf p.phrase,
      symbols := p.steps.map fun step => numberOf step.symbol }

/-- Repeats a step until it changes nothing, but not more often than given. -/
def settle {α : Type} [BEq α] (step : α → α) : Nat → α → α
  | 0, x => x
  | fuel + 1, x =>
    let y := step x
    if y == x then x else settle step fuel y

/-- With which terminals each symbol can begin. -/
def firstSets (all : List Numbered) : Array TokenSet :=
  let base := Terminal.all.length
  let start := (Array.range base).map TokenSet.single ++ Array.replicate Grammar.phrases.length 0
  let grow (sets : Array TokenSet) : Array TokenSet :=
    all.foldl (fun sets p =>
      match p.symbols with
      | [] => sets
      | s :: _ =>
        let more := sets.getD s 0
        sets.modify (base + p.phrase) fun known => known.union more) sets
  settle grow Grammar.phrases.length start

/-- A phrase at the start of a production: its number, and what follows it unless it is the whole of
the production. -/
abbrev Lead := Nat × Option TokenSet

/-- The phrases at the starts of the productions of each phrase. -/
def leads (all : List Numbered) (first : Array TokenSet) : Array (List Lead) :=
  let base := Terminal.all.length
  let add (known : List Lead) (phrase : Nat) (follow : Option TokenSet) : List Lead :=
    match follow with
    | none => if known.contains (phrase, none) then known else (phrase, none) :: known
    | some set =>
      if known.any fun lead => lead.1 == phrase && lead.2.isSome then
        known.map fun lead =>
          if lead.1 == phrase then (lead.1, lead.2.map fun other => other.union set) else lead
      else (phrase, some set) :: known
  all.foldl (fun found p =>
    match p.symbols with
    | [] => found
    | s :: rest =>
      if s < base then found
      else
        found.modify p.phrase fun known =>
          add known (s - base) (rest.head?.map fun next => first.getD next 0))
    (Array.replicate Grammar.phrases.length [])

/-- What is known of a phrase as a start of another one: what can follow it, and whether it can be
the whole. -/
abbrev CornerMap := Array (Option (TokenSet × Bool))

/-- Follows leads until nothing new is found. -/
def followLeads (leads : Array (List Lead)) : Nat → List Lead → CornerMap → CornerMap
  | 0, _, found => found
  | _, [], found => found
  | fuel + 1, (phrase, follow) :: rest, found =>
    let known := found.getD phrase none
    let isNew :=
      match known, follow with
      | none, _ => true
      | some (_, isWhole), none => !isWhole
      | some (set, _), some more => set.union more != set
    if isNew then
      let (set, isWhole) := known.getD (0, false)
      let updated :=
        match follow with
        | none => (set, true)
        | some more => (set.union more, isWhole)
      let onward := (leads.getD phrase []).map fun lead => (lead.1, lead.2.or follow)
      followLeads leads fuel (onward ++ rest) (found.setIfInBounds phrase (some updated))
    else followLeads leads fuel rest found

/-- With which phrases each phrase can begin. -/
def cornerLists (leads : Array (List Lead)) : Array (List Corner) :=
  let count := Grammar.phrases.length
  (Array.range count).map fun phrase =>
    let found := followLeads leads 1000000 [(phrase, none)] (Array.replicate count none)
    (List.range count).filterMap fun p =>
      (found.getD p none).map fun (follow, isWhole) => { phrase := p, follow, isWhole }

/-- The phrases that give a role to one of their parts, also through a hidden phrase. -/
def rolefulPhrases : Array Bool :=
  let grow (known : Array Bool) : Array Bool :=
    Grammar.productions.foldl (fun known p =>
      let isRoleful := p.steps.any fun step =>
        step.role.isSome ||
          match step.symbol with
          | .phrase q => q.isHidden && known.getD (Grammar.phrases.idxOf q) false
          | .terminal _ => false
      if isRoleful then known.setIfInBounds (Grammar.phrases.idxOf p.phrase) true else known) known
  settle grow Grammar.phrases.length (Array.replicate Grammar.phrases.length false)

/-- Whether a hidden phrase among some steps passes roles on. -/
def passesRoles (roleful : Array Bool) (steps : List Step) : Bool :=
  steps.any fun step =>
    match step.symbol with
    | .phrase q => q.isHidden && roleful.getD (Grammar.phrases.idxOf q) false
    | .terminal _ => false

/-- Whether two productions of one phrase are at the same item after a number of symbols. What is
before the point matters only for the shape of the node. -/
def sameItem (roleful : Array Bool) (before : Nat) (a b : Production) : Bool :=
  let done (p : Production) : List Step := p.steps.take before
  let shape (p : Production) : List (Option Kind × Option Role) :=
    (done p).map fun step => (step.shownAs, step.role)
  let strength (p : Production) : Option (Option Rank × Option Associativity) :=
    (done p).getLast?.map fun step => (step.rank, step.associativity)
  a.weight == b.weight && a.steps.length == b.steps.length &&
    a.steps.drop before == b.steps.drop before && strength a == strength b && shape a == shape b &&
    let passes := passesRoles roleful (done a)
    passes == passesRoles roleful (done b) &&
      (!passes || (done a).map (·.symbol) == (done b).map (·.symbol))

/-- The item at a point of a production; the item one further is not known yet. -/
def itemAt (base index before : Nat) (p : Numbered) : Item :=
  let rest := p.symbols.drop before
  let last := (p.production.steps.take before).getLast?
  { phrase := base + p.phrase, production := index, before, next := rest.head?,
    afterNext := (rest.drop 1).head?, advanced := 0, rank := last.bind (·.rank),
    associativity := last.bind (·.associativity), weight := p.production.weight }

/-- Items, and for each production the numbers of its items so far. -/
structure Numbering where
  items : Array Item
  numbers : Array (Array Nat)

/-- Numbers the items after a number of symbols. -/
def numberItems (roleful : Array Bool) (all : Array Numbered) (state : Numbering) (before : Nat) :
    Numbering :=
  let place (acc : Numbering × List (Production × Nat)) (entry : Numbered × Nat) :
      Numbering × List (Production × Nat) :=
    let (state, known) := acc
    let (p, index) := entry
    if p.symbols.length < before then acc
    else
      let known := known.filter fun other => other.1.phrase == p.production.phrase
      match known.find? fun other => sameItem roleful before other.1 p.production with
      | some (_, number) =>
        ({ state with numbers := state.numbers.modify index (·.push number) }, known)
      | none =>
        let number := state.items.size
        ({ items := state.items.push (itemAt Terminal.all.length index before p),
           numbers := state.numbers.modify index (·.push number) },
          (p.production, number) :: known)
  (all.zipIdx.foldl place (state, [])).1

/-- Builds the table. -/
def build : Table :=
  let base := Terminal.all.length
  let all := numbered
  let entries := all.toArray
  let first := firstSets all
  let program := numberOf (.phrase (.node .program))
  let longest := all.foldl (fun n p => max n p.symbols.length) 0
  let point (before advanced : Nat) (next : Option Nat) : Item :=
    { phrase := origin, production := entries.size, before, next, afterNext := none, advanced,
      rank := none, associativity := none, weight := 0 }
  let empty := entries.zipIdx.toList.filter fun (p, _) => p.symbols.isEmpty
  let special := #[point 0 1 (some program), point 1 1 none] ++
    (empty.map fun (p, index) => itemAt base index 0 p).toArray
  let numbering := (List.range longest).foldl
    (fun state n => numberItems rolefulPhrases entries state (n + 1))
    { items := special, numbers := Array.replicate entries.size #[] }
  let items := numbering.items.map fun item =>
    if item.phrase == origin then item
    else
      { item with advanced := (numbering.numbers.getD item.production #[]).getD item.before 0 }
  let starts := entries.zipIdx.foldl
    (fun (found : Array (List (Nat × Nat))) (p, index) =>
      match p.symbols with
      | [] => found
      | s :: _ =>
        found.modify s ((p.phrase, (numbering.numbers.getD index #[]).getD 0 0) :: ·))
    (Array.replicate origin [])
  { base, terminals := Terminal.all.toArray, phrases := Grammar.phrases.toArray,
    productions := Grammar.productions.toArray, items, first,
    corners := cornerLists (leads all first), starts,
    empties := empty.zipIdx.map fun ((p, _), n) => (p.phrase, n + 2) }

end Table

/-- The table of the language. -/
def table : Table := Table.build

end Script

end ScriptOutline
