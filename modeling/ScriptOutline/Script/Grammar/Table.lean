import ScriptOutline.Script.Grammar.Production

/-!
# The numbered grammar

For reading, terminals and phrases are numbered, the terminals first, and what the rules imply is
worked out once: with which terminals a symbol can begin, with which phrases a phrase can begin, and
what stands before and after each point of each production.
-/

namespace ScriptOutline

namespace Script

/-- A set of terminals: the bit with a terminal's number tells whether it is a member. -/
abbrev TokenSet := Nat

namespace TokenSet

/-- The set with one member. -/
def single (terminal : Nat) : TokenSet := 1 <<< terminal

/-- Whether a terminal is a member. -/
def has (set : TokenSet) (terminal : Nat) : Bool := set.testBit terminal

/-- The members of either set. -/
def union (a b : TokenSet) : TokenSet := a ||| b

end TokenSet

/-- A point of a production. -/
structure Item where
  /-- The symbol that the production makes up. -/
  phrase : Nat
  production : Nat
  /-- How many symbols are before the point. -/
  before : Nat
  /-- The symbol after the point, if there is one. -/
  next : Option Nat
  /-- The symbol after that. -/
  afterNext : Option Nat
  /-- The item one symbol further. -/
  advanced : Nat
  /-- The rank of the symbol before the point. -/
  rank : Option Rank
  associativity : Option Associativity
  weight : Int

/-- A phrase with which another one can begin. -/
structure Corner where
  /-- The number of the phrase among the phrases. -/
  phrase : Nat
  /-- What can follow it inside the other phrase. -/
  follow : TokenSet
  /-- Whether it can also be the whole of the other phrase. -/
  isWhole : Bool

/-- The numbered grammar. -/
structure Table where
  /-- The number of terminals, which is the number of the first phrase. -/
  base : Nat
  terminals : Array Terminal
  phrases : Array Phrase
  productions : Array Production
  items : Array Item
  /-- With which terminals a symbol can begin, by the number of the symbol. -/
  first : Array TokenSet
  /-- With which phrases a phrase can begin, by its number among the phrases. -/
  corners : Array (List Corner)
  /-- By the number of a symbol, the phrases that can begin with it, each with the item after it. -/
  starts : Array (List (Nat × Nat))
  /-- The phrases with an empty production, each with the item at its end. -/
  empties : List (Nat × Nat)

namespace Table

/-! ## Numbers with a meaning of their own -/

/-- The number of a symbol that no rule uses: the start of everything. -/
def origin : Nat := Terminal.all.length + Grammar.phrases.length

/-- The number of what cannot be read. -/
def unreadable : Nat := origin + 1

/-- The number of what is passed over after an error. -/
def skipped : Nat := origin + 2

/-- The item before the whole script. -/
def startItem : Nat := 0

/-! ## Questions -/

/-- Whether a symbol leaves no node of its own. -/
def isHidden (t : Table) (symbol : Nat) : Bool :=
  if symbol < t.base then (t.terminals[symbol]?.map Terminal.isHidden).getD true
  else symbol != unreadable && (t.phrases[symbol - t.base]?.map Phrase.isHidden).getD true

/-- Whether a symbol is a repetition. -/
def isRepetition (t : Table) (symbol : Nat) : Bool :=
  t.base ≤ symbol && (t.phrases[symbol - t.base]?.map Phrase.isRepetition).getD false

/-- The terminals with which a symbol can begin. -/
def firstOf (t : Table) (symbol : Nat) : TokenSet := t.first.getD symbol 0

end Table

end Script

end ScriptOutline
