import ScriptOutline.Script.Grammar.Symbol
import ScriptOutline.Script.Lexical.Pattern
import ScriptOutline.Script.Lexical.Place

/-!
# The spelling of tokens

The pattern of each terminal, whether blanks may stand before it, and which of two terminals that
match the same text is meant. Semicolons that are not written, the question marks of conditionals,
page comments and the plain text in templates and between tags have no pattern: where they are
depends on more than their spelling.
-/

namespace ScriptOutline

namespace Script

namespace Vocabulary

open Pattern

/-! ## Names -/

/-- The characters that end a name. -/
def nameBoundary : List Char := ":;`\"'@#.,|^&<=>+-*/\\%?!~()[]\x7b\x7d".toList

/-- Whether a character may stand in a name, not as its first. -/
def isNamePart (c : Char) : Bool := 0x20 ≤ c.toNat && !isBlank c && !nameBoundary.contains c

/-- Whether a character may be the first of a name. -/
def isNameStart (c : Char) : Bool := isNamePart c && !c.isDigit

/-- Whether a character is a hexadecimal digit. -/
def isHexDigit (c : Char) : Bool :=
  c.isDigit || ('a' ≤ c && c ≤ 'f') || ('A' ≤ c && c ≤ 'F')

/-- A hexadecimal digit. -/
def hexDigit : Pattern := .one isHexDigit

/-- A decimal digit. -/
def digit : Pattern := .one Char.isDigit

/-- An octal digit. -/
def octalDigit : Pattern := oneOf "01234567"

/-- What follows the `u` of a character that is written by its code. -/
def codePoint : Pattern :=
  any [times 4 hexDigit, all [text "\x7b", atLeastOnce hexDigit, text "\x7d"]]

/-- A character in a name that is written by its code. -/
def nameEscape : Pattern := all [text "\\u", codePoint]

/-- A name. -/
def name : Pattern :=
  all [any [.one isNameStart, nameEscape], .many (any [.one isNamePart, nameEscape])]

/-! ## Numbers -/

/-- Digits that single underscores may divide. -/
def digits (digit : Pattern) : Pattern := all [digit, .many (all [optional (text "_"), digit])]

/-- A number in a radix that a letter names. -/
def inRadix (letters : String) (digit : Pattern) : Pattern :=
  all [text "0", oneOf letters, digits digit]

/-- A whole number in hexadecimal, octal or binary digits. -/
def radixNumber : Pattern :=
  any [inRadix "xX" hexDigit, inRadix "oO" octalDigit, inRadix "bB" (oneOf "01")]

/-- An exponent. -/
def exponent : Pattern := all [oneOf "eE", optional (oneOf "+-"), digits digit]

/-- The digits before a fraction or an exponent: after at most one zero they start with another
digit. -/
def wholePart : Pattern :=
  any [text "0",
    all [optional (text "0"), oneOf "123456789",
      optional (all [optional (text "_"), digits digit])]]

/-- A number. -/
def number : Pattern :=
  any [radixNumber,
    all [wholePart, text ".", optional (digits digit), optional exponent],
    all [text ".", digits digit, optional exponent],
    all [wholePart, exponent],
    digits digit,
    all [any [radixNumber, digits digit], text "n"]]

/-! ## Comments, strings and regular expressions -/

/-- A character on the same line, as regular expressions count lines. -/
def inLine : Pattern := noneOf "\n"

/-- A comment to the end of the line. -/
def lineComment : Pattern := all [text "//", .many (noneOf "\r\n\u2028\u2029")]

/-- A comment between marks. -/
def blockComment : Pattern :=
  all [text "/*", .many (noneOf "*"), atLeastOnce (text "*"),
    .many (all [noneOf "/*", .many (noneOf "*"), atLeastOnce (text "*")]), text "/"]

/-- A backslash with what it gives a meaning to. -/
def escape : Pattern :=
  all [text "\\",
    any [noneOf "xu01234567", all [octalDigit, upTo 2 octalDigit],
      all [text "x", times 2 hexDigit], all [text "u", codePoint],
      all [oneOf "\r?", oneOf "\n\u2028\u2029"]]]

/-- The body of a regular expression. A slash is part of it only in brackets or after a backslash. -/
def regexBody : Pattern :=
  atLeastOnce <| any
    [all [text "[", .many (any [all [text "\\", inLine], noneOf "]\n\\"]), text "]"],
      all [text "\\", inLine], noneOf "/\\[\n"]

/-! ## Markup -/

/-- A character in markup that is written by its name or its code. -/
def characterReference : Pattern :=
  all [text "&",
    any [all [text "#", any [all [oneOf "xX", hexDigit, upTo 5 hexDigit],
          all [digit, upTo 4 digit]]],
      all [.one Char.isAlpha, upTo 29 (.one Char.isAlpha)]],
    text ";"]

/-- A name with a hyphen. -/
def tagName : Pattern :=
  let isStart (c : Char) : Bool := c.isAlpha || c == '_' || c == '$'
  let isPart (c : Char) : Bool := isStart c || c.isDigit
  all [.one isStart, .many (.one isPart), text "-", .many (.one fun c => isPart c || c == '-')]

/-- Plain text between quotes in a tag: an ampersand belongs to it if no character reference can
start with it. -/
def attributeText (quote : String) : Pattern :=
  let isPlain (c : Char) : Bool := c != '\x00' && c != '#' && !c.isAlpha
  atLeastOnce (any [noneOf (quote ++ "&"), all [text "&", .one isPlain]])

/-- The words `static get` with the end of a line after them. -/
def staticGetter : Pattern :=
  let blank := Pattern.one isPlainBlank
  all [text "static", atLeastOnce blank, text "get", .many blank, text "\n"]

/-- The pattern of a terminal. -/
def pattern? : Terminal → Option Pattern
  | .text spelling => some (.text spelling)
  | .identifier => some name
  | .privateName => some (all [text "#", name])
  | .number => some number
  | .interpreterLine => some (all [text "#!", .many inLine])
  | .comment => some (any [lineComment, blockComment])
  | .doubleFragment => some (atLeastOnce (noneOf "\"\\\r\n"))
  | .singleFragment => some (atLeastOnce (noneOf "'\\\r\n"))
  | .escape => some escape
  | .regexBody => some regexBody
  | .regexEnd => some (text "/")
  | .regexFlags => some (atLeastOnce (.one Char.isLower))
  | .tagName => some tagName
  | .characterReference => some characterReference
  | .doubleAttributeFragment => some (attributeText "\"")
  | .singleAttributeFragment => some (attributeText "'")
  | .staticGetter => some staticGetter
  | .endOfText | .pageComment | .templateFragment | .tagText | .automaticSemicolon
  | .questionMark => none

end Vocabulary

namespace Terminal

/-- Whether the token follows what is before it at once, without blanks. -/
def isImmediate : Terminal → Bool
  | .doubleFragment | .singleFragment | .escape | .regexBody | .regexEnd | .regexFlags
  | .doubleAttributeFragment | .singleAttributeFragment => true
  | _ => false

/-- How much a terminal is preferred to others, even to longer ones. -/
def preference : Terminal → Int
  | .doubleFragment | .singleFragment | .regexEnd | .doubleAttributeFragment
  | .singleAttributeFragment => 1
  | .regexBody => -1
  | _ => 0

/-- How specific a terminal is, which decides between matches of the same text. -/
def specificity : Terminal → Nat
  | .regexEnd => 3
  | .text _ => 2
  | t => if t.isImmediate then 1 else 0

/-- Whether the token is left out where anything may come, because its pattern would take what other
tokens are. -/
def isGreedy : Terminal → Bool
  | .text "/>" | .characterReference | .tagName | .doubleFragment | .singleFragment
  | .doubleAttributeFragment | .singleAttributeFragment | .regexBody | .regexFlags => true
  | _ => false

end Terminal

end Script

end ScriptOutline
