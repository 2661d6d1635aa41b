import ScriptOutline.Script.Grammar.Symbol

/-!
# Rules of the grammar

A rule says what a phrase consists of. Besides sequences and choices it tells how strongly the
phrase holds together, which decides between two readings while the text is read, and how much weight
it adds, which decides between two readings that are both complete. It also names parts and says as
which kind of node a part is shown.

The functions at the end are the words in which the rules are written.
-/

namespace ScriptOutline

namespace Script

/-- How strongly a phrase holds together. The ranks are ordered by `Grammar.rankings` only. -/
inductive Rank where
  | member
  | templateCall
  | call
  | unary
  | power
  | times
  | plus
  | shift
  | relation
  | equality
  | bitAnd
  | bitXor
  | bitOr
  | logicalAnd
  | logicalOr
  | ternary
  | assign
  | new
  | declare
  | literal
  | object
  deriving DecidableEq

/-- On which side phrases of the same strength nest. -/
inductive Associativity where
  | left
  | right
  deriving DecidableEq

/-- What a phrase consists of. -/
inductive Rule where
  | blank
  | symbol (symbol : Symbol)
  | both (first second : Rule)
  | either (first second : Rule)
  | ranked (rank : Option Rank) (associativity : Option Associativity) (rule : Rule)
  | weighted (weight : Int) (rule : Rule)
  | part (role : Role) (rule : Rule)
  | shown (kind : Kind) (rule : Rule)

namespace Rule

/-- A token with a fixed spelling. -/
def text (spelling : String) : Rule := .symbol (.terminal (.text spelling))

/-- A token. -/
def token (terminal : Terminal) : Rule := .symbol (.terminal terminal)

/-- A node. -/
def node (kind : Kind) : Rule := .symbol (.phrase (.node kind))

/-- A phrase without a node of its own. -/
def group (group : Group) : Rule := .symbol (.phrase (.group group))

/-- One or more of the same. -/
def repeated (repetition : Repetition) : Rule := .symbol (.phrase (.repetition repetition))

/-- One after the other. -/
def sequence : List Rule → Rule
  | [] => .blank
  | [rule] => rule
  | rule :: rest => .both rule (sequence rest)

/-- One of several. -/
def oneOf : List Rule → Rule
  | [] => .blank
  | [rule] => rule
  | rule :: rest => .either rule (oneOf rest)

/-- Once or not at all. -/
def optional (rule : Rule) : Rule := .either rule .blank

/-- One of several spellings. -/
def texts (spellings : List String) : Rule := oneOf (spellings.map text)

/-- A list in which commas divide the elements. The repetition is a comma with an element. -/
def commaList (element : Rule) (more : Repetition) : Rule :=
  sequence [element, optional (repeated more)]

/-- A rank for the whole of a phrase. -/
def rank (rank : Rank) (rule : Rule) : Rule := .ranked (some rank) none rule

/-- A rank for a phrase that nests on its left. -/
def rankLeft (rank : Rank) (rule : Rule) : Rule := .ranked (some rank) (some .left) rule

/-- A rank for a phrase that nests on its right. -/
def rankRight (rank : Rank) (rule : Rule) : Rule := .ranked (some rank) (some .right) rule

/-- A phrase that nests on its left. -/
def nestLeft (rule : Rule) : Rule := .ranked none (some .left) rule

/-- A phrase that nests on its right. -/
def nestRight (rule : Rule) : Rule := .ranked none (some .right) rule

end Rule

/-- A phrase with what it consists of. -/
abbrev Definition := Phrase × Rule

/-- The definition of a repetition: two of it, or the content once. -/
def Repetition.definition (repetition : Repetition) (content : Rule) : Definition :=
  let self := Rule.repeated repetition
  (.repetition repetition, .either (.both self self) content)

/-- The definition of a kind of node. -/
def Kind.definition (kind : Kind) (rule : Rule) : Definition := (.node kind, rule)

/-- The definition of a group. -/
def Group.definition (group : Group) (rule : Rule) : Definition := (.group group, rule)

end Script

end ScriptOutline
