import ScriptOutline.Json.Basic
import ScriptOutline.Json.Fault
import ScriptOutline.Number.Reading

/-!
# Reading JSON

`Json.parse` reads a text as one JSON value or says what is wrong with it and where. Arrays and
objects may be nested 127 deep.

Numbers: an integer that fits 64 bits is exact. Any other number is read the fast way: the leading
digits that fit 64 bits form a significand, which is rounded to a double and then multiplied or
divided once by a rounded power of ten (`Double.scaled?`), so the last bit may be off.

The same reader can skip a value (`Purpose.skip`): then the text is only checked for its shape, to
any depth, and neither number ranges nor surrogate pairs matter. A number that the end of the text
cuts short is then an invalid one, and a control character in a string does not count as read.
-/

namespace ScriptOutline

/-- `significand · 10^exponent` computed in doubles; `none` beyond the largest one. The powers of
ten go up to 308, so a smaller exponent is first raised in steps of 308. -/
def Double.scaled? (significand : Nat) (exponent : Int) : Option Double :=
  let start := Double.ofNat significand
  if 308 < exponent then
    if significand = 0 then some start else none
  else if 0 ≤ exponent then
    match start.mul (.ofNat (tenPow exponent.toNat)) with
    | .finite s m => some (.finite s m)
    | _ => none
  else if significand = 0 then
    some start
  else
    some (shrink 3 start exponent)
where
  /-- Divides by the power of ten, in steps of at most 308. Three steps reach zero. -/
  shrink : Nat → Double → Int → Double
    | 0, f, _ => f.div (.ofNat (tenPow 308))
    | fuel + 1, f, e =>
      if -308 ≤ e then f.div (.ofNat (tenPow (-e).toNat))
      else shrink fuel (f.div (.ofNat (tenPow 308))) (e + 308)

namespace Json

/-- What a value is read for. -/
inductive Purpose where
  /-- For its content. -/
  | value
  /-- Only to get past it. -/
  | skip
  deriving DecidableEq

/-- The outcome of reading at the start of a text: a result and the text after it. -/
abbrev Read (α : Type) := Except JsonFailure (α × List Char)

/-- Fails having read `extra` bytes of `rest`. -/
def failAt {α : Type} (fault : JsonFault) (rest : List Char) (extra : Nat) : Read α :=
  .error ⟨fault, rest, extra⟩

/-- Fails at the next character, which counts as read unless the text is over. -/
def failPeek {α : Type} (fault : JsonFault) (rest : List Char) : Read α :=
  .error ⟨fault, rest, if rest.isEmpty then 0 else 1⟩

/-- The four blanks of JSON. -/
def isBlank (c : Char) : Bool := c == ' ' || c == '\n' || c == '\t' || c == '\r'

/-- Drops blanks. -/
def skipBlanks (cs : List Char) : List Char := cs.dropWhile isBlank

/-- Reads the letters that must follow. -/
def letters : List Char → List Char → Read Unit
  | [], cs => .ok ((), cs)
  | _ :: _, [] => failAt .eofValue [] 0
  | e :: es, c :: cs => if c = e then letters es cs else failAt .expectedIdent (c :: cs) 1

/-! ## Numbers -/

/-- What is wrong with a number if the text ends before a digit that it needs. -/
def endFault : Purpose → JsonFault
  | .value => .eofValue
  | .skip => .invalidNumber

/-- The largest 64-bit word. -/
def wordMax : Nat := twoPow 64 - 1

/-- Takes digits into a significand as long as it fits a word: the significand, how many digits
were taken, and the rest. -/
def takeDigits (significand : Nat) : List Char → Nat × Nat × List Char
  | [] => (significand, 0, [])
  | c :: cs =>
    if c.isDigit then
      let next := significand * 10 + (c.toNat - '0'.toNat)
      if next ≤ wordMax then
        let (s, count, rest) := takeDigits next cs
        (s, count + 1, rest)
      else
        (significand, 0, c :: cs)
    else
      (significand, 0, c :: cs)

/-- The float with these parts, with its sign. -/
def floatFrom (purpose : Purpose) (positive : Bool) (significand : Nat) (exponent : Int)
    (rest : List Char) : Read JsonNumber :=
  match purpose, Double.scaled? significand exponent with
  | .skip, _ => .ok (.integer 0, rest)
  | .value, some d => .ok (.float (if positive then d else d.neg), rest)
  | .value, none => failAt .numberOutOfRange rest 0

/-- The largest exponent that is still counted. -/
def exponentMax : Nat := twoPow 31 - 1

/-- Takes the digits of an exponent: its value, or `none` in place of one that is too large, where
the digit that made it so is the last one taken. -/
def exponentDigits (value : Nat) : List Char → Option Nat × List Char
  | [] => (some value, [])
  | c :: cs =>
    if c.isDigit then
      let next := value * 10 + (c.toNat - '0'.toNat)
      if next ≤ exponentMax then exponentDigits next cs else (none, cs)
    else
      (some value, c :: cs)

/-- The sign of an exponent: whether the exponent raises the number, and what follows. -/
def exponentSign : List Char → Bool × List Char
  | '+' :: cs => (true, cs)
  | '-' :: cs => (false, cs)
  | cs => (true, cs)

/-- An exponent, from its letter on, and with it the number. -/
def exponentPart (purpose : Purpose) (positive : Bool) (significand : Nat) (start : Int)
    (cs : List Char) : Read JsonNumber :=
  let (grows, cs) := exponentSign (cs.drop 1)
  match cs with
  | [] => failAt (endFault purpose) [] 0
  | c :: rest =>
    if !c.isDigit then failAt .invalidNumber (c :: rest) 1
    else
      match exponentDigits (c.toNat - '0'.toNat) rest with
      | (some e, rest) =>
        floatFrom purpose positive significand (if grows then start + e else start - e) rest
      | (none, rest) =>
        if purpose = .value ∧ significand ≠ 0 ∧ grows then failAt .numberOutOfRange rest 0
        else floatFrom purpose positive 0 0 (rest.dropWhile Char.isDigit)

/-- What follows the digits of a float: an exponent or nothing. -/
def maybeExponent (purpose : Purpose) (positive : Bool) (significand : Nat) (exponent : Int)
    (cs : List Char) : Read JsonNumber :=
  match cs with
  | c :: _ =>
    if c = 'e' ∨ c = 'E' then exponentPart purpose positive significand exponent cs
    else floatFrom purpose positive significand exponent cs
  | [] => floatFrom purpose positive significand exponent cs

/-- A fraction, from its point on, and with it the number. Digits that no longer fit are
dropped. -/
def fractionPart (purpose : Purpose) (positive : Bool) (significand : Nat) (start : Int)
    (cs : List Char) : Read JsonNumber :=
  let cs := cs.drop 1
  let (s, count, rest) := takeDigits significand cs
  match rest with
  | c :: _ =>
    if c.isDigit then
      maybeExponent purpose positive s (start - count) (rest.dropWhile Char.isDigit)
    else if count = 0 then failPeek .invalidNumber rest
    else maybeExponent purpose positive s (start - count) rest
  | [] => if count = 0 then failAt (endFault purpose) [] 0
    else maybeExponent purpose positive s (start - count) rest

/-- A number without fraction and exponent: an integer if it fits 64 bits and is not minus zero. -/
def wholeNumber (positive : Bool) (significand : Nat) : JsonNumber :=
  if positive then .integer significand
  else if significand = 0 ∨ twoPow 63 < significand then .float (Double.ofNat significand).neg
  else .integer (-(significand : Int))

/-- What follows the integer part. -/
def afterInteger (purpose : Purpose) (positive : Bool) (significand : Nat) (cs : List Char) :
    Read JsonNumber :=
  match cs with
  | '.' :: _ => fractionPart purpose positive significand 0 cs
  | 'e' :: _ => exponentPart purpose positive significand 0 cs
  | 'E' :: _ => exponentPart purpose positive significand 0 cs
  | _ => .ok (wholeNumber positive significand, cs)

/-- What follows the digits of the integer part that fit a word. Further digits only raise the
exponent. -/
def afterDigits (purpose : Purpose) (positive : Bool) (significand : Nat) (cs : List Char) :
    Read JsonNumber :=
  let extra := (cs.takeWhile Char.isDigit).length
  if extra = 0 then afterInteger purpose positive significand cs
  else
    match cs.dropWhile Char.isDigit with
    | '.' :: rest => fractionPart purpose positive significand extra ('.' :: rest)
    | rest => maybeExponent purpose positive significand extra rest

/-- A number, after its minus sign if it has one. -/
def numberText (purpose : Purpose) (positive : Bool) : List Char → Read JsonNumber
  | [] => failAt (endFault purpose) [] 0
  | '0' :: cs =>
    match cs with
    | c :: _ =>
      if c.isDigit then failPeek .invalidNumber cs else afterInteger purpose positive 0 cs
    | [] => afterInteger purpose positive 0 cs
  | c :: cs =>
    if !c.isDigit then failAt .invalidNumber (c :: cs) 1
    else
      let (significand, _, rest) := takeDigits (c.toNat - '0'.toNat) cs
      afterDigits purpose positive significand rest

/-- A number with its sign. -/
def signedNumber (purpose : Purpose) : List Char → Read JsonNumber
  | '-' :: cs => numberText purpose false cs
  | cs => numberText purpose true cs

/-! ## Strings -/

/-- The value of four hexadecimal digits, given that four bytes are left. -/
def hexEscape (cs : List Char) : Read Nat :=
  if TextPosition.byteCount (cs.take 4) < 4 then failAt .eofString [] 0
  else
    let ds := cs.take 4
    if ds.length = 4 ∧ ds.all (fun c => (Double.digitValue? c).isSome) then
      .ok (Double.digitsValue 16 ds, cs.drop 4)
    else failAt .invalidEscape cs 4

/-- What follows `\u` in a string: one unit, or two that form a pair. -/
def unicodeEscape (purpose : Purpose) (cs : List Char) : Except JsonFailure (Char × List Char) := do
  let (n, rest) ← hexEscape cs
  if purpose = .skip then return ('u', rest)
  if 0xDC00 ≤ n ∧ n ≤ 0xDFFF then failAt .loneSurrogate rest 0
  else if n < 0xD800 ∨ 0xDBFF < n then return (Char.ofNat n, rest)
  else
    match rest with
    | [] => failAt .eofString [] 0
    | '\\' :: [] => failAt .eofString [] 0
    | '\\' :: 'u' :: rest =>
      let (low, rest) ← hexEscape rest
      if low < 0xDC00 ∨ 0xDFFF < low then failAt .loneSurrogate rest 0
      else return (Char.ofNat ((n - 0xD800) * 1024 + (low - 0xDC00) + 0x10000), rest)
    | '\\' :: rest => failAt .hexEscapeEnd rest 1
    | rest => failAt .hexEscapeEnd rest 1

/-- The rest of a string after its opening quote, in front of what was read of it (reversed). -/
def stringBody (purpose : Purpose) : Nat → List Char → List Char → Read String
  | 0, _, cs => failAt .eofString cs 0
  | fuel + 1, acc, cs =>
    match cs with
    | [] => failAt .eofString [] 0
    | '"' :: rest => .ok (String.ofList acc.reverse, rest)
    | '\\' :: rest =>
      match rest with
      | [] => failAt .eofString [] 0
      | 'u' :: rest =>
        match unicodeEscape purpose rest with
        | .ok (c, rest) => stringBody purpose fuel (c :: acc) rest
        | .error e => .error e
      | '"' :: rest => stringBody purpose fuel ('"' :: acc) rest
      | '\\' :: rest => stringBody purpose fuel ('\\' :: acc) rest
      | '/' :: rest => stringBody purpose fuel ('/' :: acc) rest
      | 'b' :: rest => stringBody purpose fuel ('\x08' :: acc) rest
      | 'f' :: rest => stringBody purpose fuel ('\x0c' :: acc) rest
      | 'n' :: rest => stringBody purpose fuel ('\n' :: acc) rest
      | 'r' :: rest => stringBody purpose fuel ('\r' :: acc) rest
      | 't' :: rest => stringBody purpose fuel ('\t' :: acc) rest
      | rest => failAt .invalidEscape rest 1
    | c :: rest =>
      if c.toNat < 32 then failAt .controlCharacter (c :: rest) (if purpose = .skip then 0 else 1)
      else stringBody purpose fuel (c :: acc) rest

/-! ## Values -/

/-- Whether an array or object may be opened at this depth. -/
def mayOpen (purpose : Purpose) (depth : Nat) : Bool := purpose == .skip || 1 < depth

/-- The colon between a key and its value. -/
def colon (cs : List Char) : Read Unit :=
  match skipBlanks cs with
  | ':' :: rest => .ok ((), rest)
  | [] => failAt .eofObject [] 0
  | rest => failPeek .expectedColon rest

/-- What stands after an item of an array or after its opening bracket: whether another item
follows. -/
def nextItem (purpose : Purpose) (first : Bool) (cs : List Char) : Read Bool :=
  match skipBlanks cs with
  | ']' :: rest => .ok (false, rest)
  | [] => failAt .eofList [] 0
  | ',' :: rest =>
    if first then .ok (true, ',' :: rest)
    else
      match purpose, skipBlanks rest with
      | .value, ']' :: more => failPeek .trailingComma (']' :: more)
      | _, [] => failAt .eofValue [] 0
      | _, more => .ok (true, more)
  | rest => if first then .ok (true, rest) else failPeek .expectedListCommaOrEnd rest

/-- What stands after a member of an object or after its opening brace: whether another key
follows, in which case the rest starts after its opening quote. -/
def nextKey (purpose : Purpose) (first : Bool) (cs : List Char) : Read Bool :=
  match skipBlanks cs with
  | '}' :: rest => .ok (false, rest)
  | [] => failAt .eofObject [] 0
  | ',' :: rest =>
    if first then failPeek .keyMustBeString (',' :: rest)
    else
      match purpose, skipBlanks rest with
      | _, '"' :: more => .ok (true, more)
      | .value, '}' :: more => failPeek .trailingComma ('}' :: more)
      | .value, [] => failAt .eofValue [] 0
      | .skip, [] => failAt .eofObject [] 0
      | _, more => failPeek .keyMustBeString more
  | '"' :: rest =>
    if first then .ok (true, rest) else failPeek .expectedObjectCommaOrEnd ('"' :: rest)
  | rest =>
    if first then failPeek .keyMustBeString rest else failPeek .expectedObjectCommaOrEnd rest

mutual

/-- A value after blanks. `depth` is how many arrays and objects may still be opened, plus one. -/
def value (purpose : Purpose) : Nat → Nat → List Char → Except JsonFailure (Json × List Char)
  | 0, _, cs => failAt .tooDeep cs 0
  | fuel + 1, depth, cs =>
    match skipBlanks cs with
    | [] => failAt .eofValue [] 0
    | 'n' :: rest => do let ((), rest) ← letters "ull".toList rest; return (.null, rest)
    | 't' :: rest => do let ((), rest) ← letters "rue".toList rest; return (.boolean true, rest)
    | 'f' :: rest => do let ((), rest) ← letters "alse".toList rest; return (.boolean false, rest)
    | '-' :: rest => do
      let (n, rest) ← signedNumber purpose ('-' :: rest)
      return (.number n, rest)
    | '"' :: rest => do
      let (s, rest) ← stringBody purpose (rest.length + 1) [] rest
      return (.string s, rest)
    | '[' :: rest =>
      if mayOpen purpose depth then do
        let (items, rest) ← items purpose fuel (depth - 1) true rest
        return (.array items, rest)
      else failPeek .tooDeep ('[' :: rest)
    | '{' :: rest =>
      if mayOpen purpose depth then do
        let (members, rest) ← members purpose fuel (depth - 1) true [] rest
        return (.object members, rest)
      else failPeek .tooDeep ('{' :: rest)
    | c :: rest =>
      if c.isDigit then do
        let (n, rest) ← signedNumber purpose (c :: rest)
        return (.number n, rest)
      else failPeek .expectedValue (c :: rest)

/-- The items of an array up to its closing bracket. -/
def items (purpose : Purpose) :
    Nat → Nat → Bool → List Char → Except JsonFailure (List Json × List Char)
  | 0, _, _, cs => failAt .tooDeep cs 0
  | fuel + 1, depth, first, cs => do
    let (more, rest) ← nextItem purpose first cs
    if more then
      let (v, rest) ← value purpose fuel depth rest
      let (vs, rest) ← items purpose fuel depth false rest
      return (v :: vs, rest)
    else
      return ([], rest)

/-- The members of an object up to its closing brace, added to those read before. -/
def members (purpose : Purpose) :
    Nat → Nat → Bool → Members → List Char → Except JsonFailure (Members × List Char)
  | 0, _, _, _, cs => failAt .tooDeep cs 0
  | fuel + 1, depth, first, before, cs => do
    let (more, rest) ← nextKey purpose first cs
    if more then
      let (key, rest) ← stringBody purpose (rest.length + 1) [] rest
      let ((), rest) ← colon rest
      let (v, rest) ← value purpose fuel depth rest
      members purpose fuel depth false (Members.put key v before) rest
    else
      return (before, rest)

end

/-- How many arrays and objects may stand inside each other, plus one. -/
def depthLimit : Nat := 128

/-- Enough steps for any text of this length. -/
def stepsFor (cs : List Char) : Nat := 2 * cs.length + 2

/-- Fails if anything but blanks is left. -/
def atEnd (cs : List Char) : Except JsonFailure Unit :=
  match skipBlanks cs with
  | [] => .ok ()
  | rest => .error ⟨.trailingCharacters, rest, 1⟩

/-- Reads a whole text as one value. -/
def parse (cs : List Char) : Except JsonFailure Json := do
  let (v, rest) ← value .value (stepsFor cs) depthLimit cs
  atEnd rest
  return v

end Json

end ScriptOutline
