import ScriptOutline.Text.Blank

/-!
# Places

A place in a text: what follows it, and how much is before it. Offsets and columns count bytes, lines
end at line feeds.

Where there is nothing left, and where there is a character with code zero, a place shows the
character with code zero, which no token holds.
-/

namespace ScriptOutline

namespace Script

/-- A place in a text. -/
structure Place where
  /-- What follows. -/
  rest : List Char
  /-- The number of bytes before it. -/
  offset : Nat
  /-- The number of line feeds before it. -/
  row : Nat
  /-- The number of bytes between the last line feed and it. -/
  column : Nat

namespace Place

/-- The start of a text. -/
def startOf (text : List Char) : Place := { rest := text, offset := 0, row := 0, column := 0 }

/-- The character that stands for the end of the text. -/
def nul : Char := '\x00'

/-- The character at a place. -/
def look (place : Place) : Char := place.rest.headD nul

/-- Whether nothing is left. -/
def isAtEnd (place : Place) : Bool := place.rest.isEmpty

/-- The place after a character, given what follows that. -/
def past (place : Place) (c : Char) (rest : List Char) : Place :=
  if c == '\n' then
    { rest, offset := place.offset + 1, row := place.row + 1, column := 0 }
  else
    { rest, offset := place.offset + c.utf8Size, row := place.row,
      column := place.column + c.utf8Size }

/-- The place after the next character; the end of the text is its own successor. -/
def next (place : Place) : Place :=
  match place.rest with
  | [] => place
  | c :: rest => place.past c rest

/-- The place after the characters that have a property. -/
def passWhile (property : Char → Bool) (place : Place) : Place :=
  go place.rest place
where
  /-- Goes on from a place with what follows it. -/
  go : List Char → Place → Place
    | [], place => place
    | c :: rest, place => if property c then go rest (place.past c rest) else place

/-- The characters from a place up to an offset. -/
def charactersTo (place : Place) (stop : Nat) : List Char :=
  go place.rest place.offset
where
  /-- Takes characters from an offset on. -/
  go : List Char → Nat → List Char
    | [], _ => []
    | c :: rest, offset => if offset < stop then c :: go rest (offset + c.utf8Size) else []

/-- The text between two places. -/
def textTo (place stop : Place) : String := String.ofList (place.charactersTo stop.offset)

end Place

/-! ## Characters -/

/-- Whether a character separates tokens. The control character for a next line does not: names may
hold it. -/
def isBlank (c : Char) : Bool :=
  (isWhiteSpace c && c != '\u0085') || c == '\uFEFF' || c == '\u2060' || c == '\u200B'

/-- White space within the first 128 code points. -/
def isPlainBlank (c : Char) : Bool := (0x09 ≤ c.toNat && c.toNat ≤ 0x0D) || c == ' '

/-- The line ends that count where a semicolon need not be written. -/
def isLineBreak (c : Char) : Bool := c == '\n' || c == '\u2028' || c == '\u2029'

end Script

end ScriptOutline
