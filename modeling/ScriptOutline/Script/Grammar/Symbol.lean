import ScriptOutline.Script.Tree

/-!
# Symbols of the grammar

The grammar is written with terminals, which are kinds of tokens, and phrases, which are what its
rules define. A phrase is either a kind of node, or a group, which has no node of its own and leaves
its parts to the phrase around it, or a repetition, which is a group of one or more of the same.
-/

namespace ScriptOutline

namespace Script

/-- An opening brace. -/
def leftBrace : String := "\x7b"

/-- A closing brace. -/
def rightBrace : String := "\x7d"

/-- A kind of token. -/
inductive Terminal where
  /-- The end of the text. -/
  | endOfText
  /-- A keyword, an operator or punctuation. -/
  | text (spelling : String)
  | identifier
  | privateName
  | number
  /-- A first line that names an interpreter. -/
  | interpreterLine
  /-- A line comment or a block comment. -/
  | comment
  /-- A comment that starts as one in a web page does and runs to the end of its line. -/
  | pageComment
  /-- Plain text between double quotes. -/
  | doubleFragment
  /-- Plain text between single quotes. -/
  | singleFragment
  /-- A backslash with what it gives a meaning to. -/
  | escape
  /-- Plain text in a template. -/
  | templateFragment
  | regexBody
  /-- The slash after the body of a regular expression. -/
  | regexEnd
  | regexFlags
  /-- A name in markup that holds a hyphen. -/
  | tagName
  /-- Plain text between tags. -/
  | tagText
  /-- A character in markup that is written by its name or its code. -/
  | characterReference
  /-- Plain text between double quotes in a tag. -/
  | doubleAttributeFragment
  /-- Plain text between single quotes in a tag. -/
  | singleAttributeFragment
  /-- The words `static get` when a line ends after them. -/
  | staticGetter
  /-- A semicolon that is not written. -/
  | automaticSemicolon
  /-- The question mark of a conditional. -/
  | questionMark
  deriving DecidableEq

namespace Terminal

/-- Whether the token is spelled with letters only, as a name could be. -/
def isWord : Terminal → Bool
  | .text spelling => spelling.toList.all Char.isAlpha
  | _ => false

/-- Whether the token, by itself, leaves no trace in a tree. -/
def isHidden : Terminal → Bool
  | .endOfText | .automaticSemicolon | .templateFragment | .questionMark => true
  | _ => false

/-- Whether the token leaves a trace as a part of a phrase although by itself it does not. -/
def isShownInPhrases : Terminal → Bool
  | .templateFragment | .questionMark => true
  | _ => false

/-- The kind of leaf that the token becomes; keywords and punctuation have none. -/
def kind? : Terminal → Option Kind
  | .identifier | .tagName => some .identifier
  | .privateName => some .privatePropertyIdentifier
  | .number => some .number
  | .interpreterLine => some .hashBangLine
  | .comment => some .comment
  | .pageComment => some .htmlComment
  | .doubleFragment | .singleFragment | .templateFragment => some .stringFragment
  | .doubleAttributeFragment | .singleAttributeFragment => some .stringFragment
  | .escape => some .escapeSequence
  | .regexBody => some .regexPattern
  | .regexFlags => some .regexFlags
  | .tagText => some .jsxText
  | .characterReference => some .htmlCharacterReference
  | .text "this" => some .this
  | .text "super" => some .super
  | .text "true" => some .trueLiteral
  | .text "false" => some .falseLiteral
  | .text "null" => some .nullLiteral
  | .text "undefined" => some .undefined
  | .text "?." => some .optionalChain
  | _ => none

/-- The tokens with a fixed spelling, in the order in which they are tried where one is missing. -/
def spellings : List String :=
  ["export", "*", "default", "as", leftBrace, ",", rightBrace, "import", "from", "with", "var",
    "let", "const", "else", "if", "switch", "for", "(", ";", ")", "await", "in", "of", "while",
    "do", "try", "break", "continue", "debugger", "return", "throw", ":", "case", "catch",
    "finally", "yield", "=", "[", "]", "<", ">", ".", "</", "/>", "\"", "'", "class", "extends",
    "async", "function", "=>", "new", "+=", "-=", "*=", "/=", "%=", "^=", "&=", "|=", ">>=",
    ">>>=", "<<=", "**=", "&&=", "||=", "??=", "...", "&&", "||", ">>", ">>>", "<<", "&", "^", "|",
    "+", "-", "/", "%", "**", "<=", "==", "===", "!=", "!==", ">=", "??", "instanceof", "!", "~",
    "typeof", "void", "delete", "++", "--", "`", "$" ++ leftBrace, "target", "meta", "@", "static",
    "get", "set", "?.", "this", "super", "true", "false", "null", "undefined"]

/-- All terminals. Their places in this list are their numbers. -/
def all : List Terminal :=
  [.endOfText, .identifier, .interpreterLine] ++ spellings.map .text ++
    [.characterReference, .tagName, .doubleAttributeFragment, .singleAttributeFragment,
      .doubleFragment, .singleFragment, .escape, .comment, .regexBody, .regexEnd, .regexFlags,
      .number, .privateName, .staticGetter, .automaticSemicolon, .templateFragment, .questionMark,
      .pageComment, .tagText]

end Terminal

/-- A phrase without a node of its own. -/
inductive Group where
  | moduleName
  | declaration
  | fromClause
  | statement
  | forHeader
  | expression
  | primaryExpression
  | nestedName
  | attributeString
  | compoundTarget
  | initializer
  | destructuringPattern
  | decoratorMember
  | decoratorCall
  | pattern
  | propertyName
  deriving DecidableEq

/-- Whether a group is only ever a part of other phrases. The others are shown as nodes of some other
kind wherever the grammar has them. -/
def Group.isHidden : Group → Bool
  | .nestedName | .decoratorMember | .decoratorCall => false
  | _ => true

/-- One or more of the same. -/
inductive Repetition where
  | statements
  | decorators
  | exportSpecifiers
  | importSpecifiers
  | declarators
  | switchCases
  | properties
  | patternProperties
  | elements
  | patternElements
  | tagChildren
  | attributes
  | doubleAttributeParts
  | singleAttributeParts
  | expressions
  | doubleParts
  | singleParts
  | templateParts
  | classMembers
  | parameters
  deriving DecidableEq

/-- What a rule of the grammar defines. -/
inductive Phrase where
  | node (kind : Kind)
  | group (group : Group)
  | repetition (repetition : Repetition)
  deriving DecidableEq

namespace Phrase

/-- Whether the phrase leaves its parts to the phrase around it. -/
def isHidden : Phrase → Bool
  | .node _ => false
  | .group g => g.isHidden
  | .repetition _ => true

/-- Whether the phrase is one or more of the same. -/
def isRepetition : Phrase → Bool
  | .repetition _ => true
  | _ => false

end Phrase

/-- What a rule is made of. -/
inductive Symbol where
  | terminal (terminal : Terminal)
  | phrase (phrase : Phrase)
  deriving DecidableEq

end Script

end ScriptOutline
