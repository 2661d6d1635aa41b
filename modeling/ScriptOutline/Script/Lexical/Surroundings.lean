import ScriptOutline.Script.Grammar.Table
import ScriptOutline.Script.Lexical.Longest
import ScriptOutline.Script.Lexical.Semicolon

/-!
# Tokens that depend on their surroundings

A few tokens are not known by their spelling alone: a semicolon that is not written, the question
mark of a conditional, a page comment, and plain text in templates and between tags. They are looked
for before all others, and which of them are looked for depends on what else could follow.
-/

namespace ScriptOutline

namespace Script

namespace Surroundings

/-! ## Plain text -/

/-- The end of the plain text of a template, if there is any. It ends before a backtick, a backslash
and a dollar sign with a brace; one of them has to follow. -/
def templateText : List Char → Place → (hasText : Bool) → Option Place
  | [], _, _ => none
  | c :: rest, place, hasText =>
    let isEnd := c == '`' || c == '\\' || (c == '$' && rest.head? == some '\x7b')
    if isEnd then if hasText then some place else none
    else if c == Place.nul then none
    else templateText rest (place.past c rest) true

/-- The characters that end plain text between tags. -/
def tagBoundary : List Char := [Place.nul, '<', '>', '\x7b', '\x7d', '&']

/-- The end of the plain text between tags, and whether it counts. Blanks from a line break on do
not. -/
def tagText : List Char → Place → (counts afterBreak : Bool) → Bool × Place
  | [], place, counts, _ => (counts, place)
  | c :: rest, place, counts, afterBreak =>
    if tagBoundary.contains c then (counts, place)
    else
      let afterBreak := c == '\n' || (afterBreak && isPlainBlank c)
      tagText rest (place.past c rest) (counts || !afterBreak) afterBreak

/-! ## Marks -/

/-- A place from which to look for a token. The token starts earlier if something was already taken
as part of it. -/
structure Probe where
  start : Place
  place : Place

/-- Passes characters that are not part of the token. -/
def Probe.skip (probe : Probe) (property : Char → Bool) : Probe :=
  let place := probe.place.passWhile property
  if place.offset == probe.place.offset then probe else { start := place, place }

/-- The question mark of a conditional. Two question marks are an operator, and so is one with a
point, unless a digit follows. -/
def questionMark? (probe : Probe) : Option (Place × Place) :=
  let probe := probe.skip isPlainBlank
  if probe.place.look != '?' then none
  else
    let stop := probe.place.next
    if stop.look == '?' || (stop.look == '.' && !stop.next.look.isDigit) then none
    else some (probe.start, stop)

/-- The place after given characters, if they follow. -/
def afterText : List Char → Place → Option Place
  | [], place => some place
  | c :: rest, place => if place.look == c then afterText rest place.next else none

/-- A comment that starts as one in a web page does, or ends as one does, and runs to the end of the
line. -/
def pageComment? (probe : Probe) : Option (Place × Place) :=
  let probe := probe.skip fun c => isPlainBlank c || isLineBreak c
  let mark := if probe.place.look == '<' then "<!--" else "-->"
  (afterText mark.toList probe.place).map fun place =>
    (probe.start, place.passWhile fun c => !isLineBreak c && c != Place.nul)

/-! ## All of them -/

/-- The number of a terminal. -/
def numberOf (terminal : Terminal) : Nat := Terminal.all.idxOf terminal

/-- The number of a semicolon that is not written. -/
def semicolonNumber : Nat := numberOf .automaticSemicolon

/-- The number of the plain text of a template. -/
def templateNumber : Nat := numberOf .templateFragment

/-- The number of the plain text between tags. -/
def tagTextNumber : Nat := numberOf .tagText

/-- The number of the question mark of a conditional. -/
def questionMarkNumber : Nat := numberOf .questionMark

/-- The number of a page comment. -/
def pageCommentNumber : Nat := numberOf .pageComment

/-- The number of the operator that stands for all operators. -/
def operatorNumber : Nat := numberOf (.text "||")

/-- The numbers of what excludes page comments. -/
def pageCommentExcluders : List Nat :=
  [operatorNumber, numberOf .escape, numberOf .regexBody]

/-- A question mark, semicolon or page comment. -/
def findMark (expected : TokenSet) (probe : Probe) : Option Match :=
  let found (terminal : Nat) (span : Place × Place) : Match :=
    { terminal, start := span.1, stop := span.2 }
  let question (probe : Probe) : Option Match :=
    (questionMark? probe).map (found questionMarkNumber)
  if expected.has semicolonNumber then
    let place := probe.place
    match Semicolon.find (!expected.has operatorNumber) place.rest place .between false with
    | .yes => some (found semicolonNumber (probe.start, place))
    | .no stop sawComment =>
      if !sawComment && expected.has questionMarkNumber && stop.look == '?' then
        question { start := stop, place := stop }
      else none
  else if expected.has questionMarkNumber then question probe
  else if expected.has pageCommentNumber && !pageCommentExcluders.any expected.has then
    (pageComment? probe).map (found pageCommentNumber)
  else none

/-- The token of this sort at a place. Where both a semicolon and the text of a template could follow,
anything could, and none is looked for. -/
def find (expected : TokenSet) (place : Place) : Option Match :=
  if expected.has templateNumber then
    if expected.has semicolonNumber then none
    else
      (templateText place.rest place false).map fun stop =>
        { terminal := templateNumber, start := place, stop }
  else if expected.has tagTextNumber then
    let (counts, stop) := tagText place.rest place false false
    if counts then some { terminal := tagTextNumber, start := place, stop }
    else findMark expected { start := place, place := stop }
  else findMark expected { start := place, place }

end Surroundings

end Script

end ScriptOutline
