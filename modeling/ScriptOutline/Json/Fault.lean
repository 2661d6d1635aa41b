/-!
# Faults of JSON text

What can be wrong with a JSON text, and where. A position is a line and the number of bytes of that
line that were read when the fault was noticed.
-/

namespace ScriptOutline

/-- What is wrong with a JSON text. -/
inductive JsonFault where
  | eofValue
  | eofList
  | eofString
  | eofObject
  | expectedValue
  | expectedIdent
  | expectedColon
  | expectedObjectCommaOrEnd
  | expectedListCommaOrEnd
  | trailingComma
  | trailingCharacters
  | keyMustBeString
  | invalidNumber
  | numberOutOfRange
  | invalidEscape
  | loneSurrogate
  | hexEscapeEnd
  | controlCharacter
  /-- More arrays and objects inside each other than the reader follows. -/
  | tooDeep
  deriving DecidableEq

/-- The wording of a fault. -/
def JsonFault.message : JsonFault → String
  | .eofValue => "EOF while parsing a value"
  | .eofList => "EOF while parsing a list"
  | .eofString => "EOF while parsing a string"
  | .eofObject => "EOF while parsing an object"
  | .expectedValue => "expected value"
  | .expectedIdent => "expected ident"
  | .expectedColon => "expected `:`"
  | .expectedObjectCommaOrEnd => "expected `,` or `\x7d`"
  | .expectedListCommaOrEnd => "expected `,` or `]`"
  | .trailingComma => "trailing comma"
  | .trailingCharacters => "trailing characters"
  | .keyMustBeString => "key must be a string"
  | .invalidNumber => "invalid number"
  | .numberOutOfRange => "number out of range"
  | .invalidEscape => "invalid escape"
  | .loneSurrogate => "lone leading surrogate in hex escape"
  | .hexEscapeEnd => "unexpected end of hex escape"
  | .controlCharacter => "control character (\\u0000-\\u001F) found while parsing a string"
  | .tooDeep => "recursion limit exceeded"

/-- A line, counted from one, and the bytes read of it. -/
structure TextPosition where
  line : Nat
  column : Nat
  deriving DecidableEq

namespace TextPosition

/-- The bytes of a text. -/
def byteCount (cs : List Char) : Nat := cs.foldl (fun n c => n + c.utf8Size) 0

/-- Moves over the given number of bytes. -/
def advance (p : TextPosition) : List Char → Nat → TextPosition
  | [], _ => p
  | c :: rest, bytes =>
    if bytes < c.utf8Size then { p with column := p.column + bytes }
    else
      let next : TextPosition :=
        if c = '\n' then ⟨p.line + 1, 0⟩ else ⟨p.line, p.column + c.utf8Size⟩
      next.advance rest (bytes - c.utf8Size)

/-- The position after the first bytes of a text. -/
def after (text : List Char) (bytes : Nat) : TextPosition :=
  (TextPosition.mk 1 0).advance text bytes

/-- The usual suffix of a message. -/
def suffix (p : TextPosition) : String :=
  " at line " ++ toString p.line ++ " column " ++ toString p.column

end TextPosition

/-- A fault, the text that was left when it was noticed, and how many bytes beyond that count as
read. -/
structure JsonFailure where
  fault : JsonFault
  rest : List Char
  extra : Nat

/-- Where in `text` the failure is reported. -/
def JsonFailure.position (f : JsonFailure) (text : List Char) : TextPosition :=
  .after text (TextPosition.byteCount text - TextPosition.byteCount f.rest + f.extra)

/-- The message with its position. -/
def JsonFailure.message (f : JsonFailure) (text : List Char) : String :=
  f.fault.message ++ (f.position text).suffix

end ScriptOutline
