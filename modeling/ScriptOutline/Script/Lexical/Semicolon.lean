import ScriptOutline.Script.Lexical.Place

/-!
# Semicolons that are not written

A semicolon need not be written before a closing brace, at the end of the text, and before a line
break, unless the token after the line break would continue the statement. The rule looks at
characters only. It is asked right after a token, and again after each comment that follows.
-/

namespace ScriptOutline

namespace Script

namespace Semicolon

/-! ## Comments -/

/-- Where among blanks and comments a character stands. -/
inductive Region where
  | outside
  | afterSlash
  | lineComment
  /-- In a block comment; `star` if the last character was one. -/
  | blockComment (star : Bool)

/-- A stretch of plain blanks and comments that was passed. -/
structure Passage where
  /-- Where it ends. -/
  place : Place
  /-- Whether it ends after a slash that starts no comment. -/
  isSlash : Bool
  /-- Whether a comment was passed. -/
  sawComment : Bool

/-- Passes plain blanks and comments up to the next token. A comment may lack its end. -/
def passComments : List Char → Place → Region → (sawComment : Bool) → Passage
  | [], place, .outside, saw => ⟨place, false, saw⟩
  | [], place, .afterSlash, saw => ⟨place, true, saw⟩
  | [], place, .lineComment, _ => ⟨place, false, true⟩
  | [], place, .blockComment _, saw => ⟨place, false, saw⟩
  | c :: rest, place, .outside, saw =>
    if isPlainBlank c then passComments rest (place.past c rest) .outside saw
    else if c == '/' then passComments rest (place.past c rest) .afterSlash saw
    else ⟨place, false, saw⟩
  | c :: rest, place, .afterSlash, saw =>
    if c == '/' then passComments rest (place.past c rest) .lineComment saw
    else if c == '*' then passComments rest (place.past c rest) (.blockComment false) saw
    else ⟨place, true, saw⟩
  | c :: rest, place, .lineComment, saw =>
    if c == '\n' then passComments rest (place.past c rest) .outside true
    else if isLineBreak c || c == Place.nul then ⟨place, false, true⟩
    else passComments rest (place.past c rest) .lineComment saw
  | c :: rest, place, .blockComment star, saw =>
    if c == Place.nul then ⟨place, false, saw⟩
    else if star && c == '/' then passComments rest (place.past c rest) .outside true
    else passComments rest (place.past c rest) (.blockComment (c == '*')) saw

/-! ## The rule -/

/-- The answer to the question for a semicolon. -/
inductive Answer where
  | yes
  /-- No, with how far the text was looked at and whether a comment was passed on the way. -/
  | no (place : Place) (sawComment : Bool)

/-- The characters that always continue a statement. -/
def continuing : List Char := "`,:;*%><=[(?^|&/".toList

/-- The answer where a word continues the statement, unless it is only the start of a longer one. -/
def wordAnswer (word : List Char) (place : Place) (saw : Bool) : Answer :=
  match word with
  | [] => if place.look.isAlpha then .yes else .no place saw
  | c :: rest => if place.look == c then wordAnswer rest place.next saw else .yes

/-- Whether a semicolon stands before a token that follows a line break. -/
def beforeToken (place : Place) (saw : Bool) : Answer :=
  let next := place.next
  let decide (isSemicolon : Bool) : Answer := if isSemicolon then .yes else .no next saw
  match place.look with
  | '.' => decide next.look.isDigit
  | '+' => decide (next.look == '+')
  | '-' => decide (next.look == '-')
  | '!' => decide (next.look != '=')
  | 'i' =>
    if next.look != 'n' then .yes
    else
      let after := next.next
      if after.look.isAlpha then wordAnswer "stanceof".toList after saw else .no after saw
  | c => if continuing.contains c then .no place saw else .yes

/-- Whether a semicolon stands before a line break, given what follows the line break. -/
def atLineBreak (place : Place) (saw : Bool) : Answer :=
  let passage := passComments place.rest place .outside saw
  if passage.isSlash then .no passage.place passage.sawComment
  else beforeToken passage.place passage.sawComment

/-- Where the question for a semicolon stands. -/
inductive Quest where
  /-- Between tokens and comments. -/
  | between
  /-- In a comment, or after the slash that may start one. -/
  | inComment (region : Region) (broken : Bool)
  /-- After a block comment; `broken` if there was a line break in one. -/
  | afterComment (broken : Bool)

/-- Whether a semicolon that is not written stands at a place. Where no operator could follow, a
comment to the end of the line, or one with a line break in it, counts as a line break, unless a
comma or an equals sign follows. -/
def find (noOperator : Bool) : List Char → Place → Quest → (sawComment : Bool) → Answer
  | [], _, .between, _ => .yes
  | [], place, .inComment .afterSlash _, saw => .no place saw
  | [], place, .inComment .lineComment _, _ => if noOperator then .yes else .no place true
  | [], place, .inComment _ _, saw => if noOperator then .yes else .no place saw
  | [], place, .afterComment broken, saw =>
    if broken && noOperator then .yes else .no place saw
  | c :: rest, place, quest, saw =>
    let next := place.past c rest
    let isBreak := noOperator && c != ',' && c != '='
    let plain (saw : Bool) : Answer :=
      if c == '\x7d' then .yes
      else if isLineBreak c then atLineBreak next saw
      else if isPlainBlank c then find noOperator rest next .between saw
      else .no place saw
    match quest with
    | .between =>
      if c == Place.nul then .yes
      else if c == '/' then find noOperator rest next (.inComment .afterSlash false) saw
      else plain saw
    | .afterComment broken =>
      if broken && isBreak then .yes else plain saw
    | .inComment region broken =>
      match region with
      | .outside =>
        if isPlainBlank c then find noOperator rest next (.inComment .outside broken) saw
        else if c == '/' then find noOperator rest next (.inComment .afterSlash broken) saw
        else if isBreak then .yes
        else plain saw
      | .afterSlash =>
        if c == '/' then find noOperator rest next (.inComment .lineComment broken) saw
        else if c == '*' then
          find noOperator rest next (.inComment (.blockComment false) broken) saw
        else .no place saw
      | .lineComment =>
        if c == '\n' then find noOperator rest next (.inComment .outside broken) true
        else if isLineBreak c || c == Place.nul then
          if isBreak then .yes else plain true
        else find noOperator rest next (.inComment .lineComment broken) saw
      | .blockComment star =>
        if c == Place.nul then if noOperator then .yes else plain saw
        else if star && c == '/' then
          if next.look != '/' then find noOperator rest next (.afterComment broken) true
          else find noOperator rest next (.inComment .outside broken) true
        else
          find noOperator rest next (.inComment (.blockComment (c == '*'))
            (broken || isLineBreak c)) saw

end Semicolon

end Script

end ScriptOutline
