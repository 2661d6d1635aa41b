import ScriptOutline.Script.Grammar.Language

/-!
# Productions

A rule stands for a number of productions: the sequences of symbols that it allows, one for each
choice of alternatives. No phrase but the whole script has an empty production.
-/

namespace ScriptOutline

namespace Script

/-- One symbol of a production, with what its rule says about it. -/
structure Step where
  symbol : Symbol
  rank : Option Rank := none
  associativity : Option Associativity := none
  /-- The kind of node as which the symbol is shown, if not its own. -/
  shownAs : Option Kind := none
  /-- The part that the symbol plays in the phrase. -/
  role : Option Role := none
  deriving DecidableEq

/-- One way to make up a phrase. -/
structure Production where
  phrase : Phrase
  steps : List Step
  /-- What choosing this production adds to the weight of a reading. -/
  weight : Int
  deriving DecidableEq

/-- Of two weights the one that counts more, and the first if they count the same. -/
def heavier (a b : Int) : Int := if a.natAbs < b.natAbs then b else a

/-- The sequences of symbols that a rule allows, each with its weight. What an inner rule says about a
symbol goes before what the rules around it say. -/
def Rule.alternatives : Rule → List (List Step × Int)
  | .blank => [([], 0)]
  | .symbol s => [([{ symbol := s }], 0)]
  | .both first second =>
    let rests := second.alternatives
    first.alternatives.flatMap fun (steps, weight) =>
      rests.map fun (more, other) => (steps ++ more, heavier weight other)
  | .either first second => first.alternatives ++ second.alternatives
  | .ranked rank associativity rule =>
    rule.alternatives.map fun (steps, weight) =>
      (steps.map fun step =>
        { step with
          rank := step.rank.or rank, associativity := step.associativity.or associativity },
        weight)
  | .weighted outer rule =>
    rule.alternatives.map fun (steps, weight) => (steps, heavier outer weight)
  | .part role rule =>
    rule.alternatives.map fun (steps, weight) =>
      (steps.map fun step => { step with role := step.role.or role }, weight)
  | .shown kind rule =>
    rule.alternatives.map fun (steps, weight) =>
      (steps.map fun step => { step with shownAs := step.shownAs.or kind }, weight)

/-- Whether a production comes before another one of the same phrase: the lighter before the heavier,
and the shorter before the longer. -/
def Production.isBefore (a b : Production) : Bool :=
  a.weight < b.weight || (a.weight == b.weight && a.steps.length < b.steps.length)

/-- Adds a production to those that are in order, after all that it does not have to come before. -/
def insertProduction (p : Production) : List Production → List Production
  | [] => [p]
  | q :: rest => if p.isBefore q then p :: q :: rest else q :: insertProduction p rest

/-- The productions of a definition in order. -/
def productionsOf (definition : Definition) : List Production :=
  let all := definition.2.alternatives.eraseDups.map fun (steps, weight) =>
    { phrase := definition.1, steps, weight : Production }
  all.foldl (fun sorted p => insertProduction p sorted) []

namespace Grammar

/-- All phrases. -/
def phrases : List Phrase := definitions.map (·.1)

/-- All productions, those of a phrase together. -/
def productions : List Production := definitions.flatMap productionsOf

end Grammar

end Script

end ScriptOutline
