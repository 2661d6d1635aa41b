/-!
# Patterns

What the spelling of a token looks like: a regular expression over characters. A pattern is matched
by taking it apart one character at a time: `afterChar` lists the patterns of which one must match
the rest.
-/

namespace ScriptOutline

namespace Script

/-- A regular expression over characters. -/
inductive Pattern where
  | empty
  /-- Given characters. -/
  | exactly (text : List Char)
  /-- One character with a property. -/
  | one (property : Char → Bool)
  | sequence (first second : Pattern)
  | either (first second : Pattern)
  /-- Any number of times. -/
  | many (pattern : Pattern)

namespace Pattern

/-- Whether the pattern matches the empty text. -/
def isNullable : Pattern → Bool
  | .empty => true
  | .exactly text => text.isEmpty
  | .one _ => false
  | .sequence a b => a.isNullable && b.isNullable
  | .either a b => a.isNullable || b.isNullable
  | .many _ => true

/-- One pattern after another. -/
def followedBy : Pattern → Pattern → Pattern
  | .empty, b => b
  | .exactly [], b => b
  | a, b => .sequence a b

/-- The patterns for what may follow a first character. -/
def afterChar (c : Char) : Pattern → List Pattern
  | .empty => []
  | .exactly [] => []
  | .exactly (d :: rest) => if c == d then [.exactly rest] else []
  | .one property => if property c then [.empty] else []
  | .sequence a b =>
    let inFirst := (a.afterChar c).map fun p => p.followedBy b
    if a.isNullable then inFirst ++ b.afterChar c else inFirst
  | .either a b => a.afterChar c ++ b.afterChar c
  | .many a => (a.afterChar c).map fun p => p.followedBy (.many a)

/-! ## Words to write patterns in -/

/-- A text. -/
def text (s : String) : Pattern := .exactly s.toList

/-- One of the characters of a text. -/
def oneOf (s : String) : Pattern := .one s.toList.contains

/-- A character, not with code zero, that is not in a text. -/
def noneOf (s : String) : Pattern :=
  let excluded := '\x00' :: s.toList
  .one fun c => !excluded.contains c

/-- One after the other. -/
def all : List Pattern → Pattern
  | [] => .empty
  | [p] => p
  | p :: rest => .sequence p (all rest)

/-- One of several. -/
def any : List Pattern → Pattern
  | [] => .one fun _ => false
  | [p] => p
  | p :: rest => .either p (any rest)

/-- Once or not at all. -/
def optional (p : Pattern) : Pattern := .either p .empty

/-- At least once. -/
def atLeastOnce (p : Pattern) : Pattern := .sequence p (.many p)

/-- At most a number of times. -/
def upTo : Nat → Pattern → Pattern
  | 0, _ => .empty
  | n + 1, p => optional (.sequence p (upTo n p))

/-- An exact number of times. -/
def times : Nat → Pattern → Pattern
  | 0, _ => .empty
  | n + 1, p => followedBy p (times n p)

end Pattern

end Script

end ScriptOutline
