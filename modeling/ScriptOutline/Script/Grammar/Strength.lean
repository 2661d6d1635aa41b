import ScriptOutline.Script.Grammar.Table

/-!
# Strength

Which of two phrases that compete for the same tokens is the stronger one. `Grammar.rankings` lists
ranks and phrases from the strongest to the weakest; the first list that knows both sides decides.
-/

namespace ScriptOutline

namespace Script

/-- One side of a competition: a rank and the phrases that share it. -/
structure Side where
  rank : Option Rank
  phrases : List Phrase

/-- Whether a side takes part in an order as a contender. -/
def Side.matches (side : Side) : Grammar.Contender → Bool
  | .rank r => side.rank == some r
  | .phrase p => side.phrases.contains p

/-- Goes down an order. The first contender that one side alone matches, after the other side was
met, decides against that side. -/
def compareIn (left right : Side) : List Grammar.Contender → Bool → Bool → Option Ordering
  | [], _, _ => none
  | contender :: weaker, metLeft, metRight =>
    let isLeft := left.matches contender
    let isRight := right.matches contender
    if isLeft && (metRight && !isRight) then some .lt
    else if !isLeft && isRight && metLeft then some .gt
    else compareIn left right weaker (metLeft || isLeft) (metRight || isRight)

/-- Compares the strength of two sides; the greater is the stronger. -/
def compareStrength (left right : Side) : Ordering :=
  (Grammar.rankings.findSome? fun order => compareIn left right order false false).getD .eq

end Script

end ScriptOutline
