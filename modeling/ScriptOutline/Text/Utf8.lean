/-!
# UTF-8

Decoding bytes. A sequence that is cut short or cannot be continued is malformed; a malformed
sequence is as long as a well-formed one could start with it. The strict reading refuses malformed
sequences, the lenient one puts a replacement character in the place of each.
-/

namespace ScriptOutline

namespace Utf8

/-- A character of which some bytes were read: how many are missing, the bits so far, and the range
of the next byte. -/
structure Partial where
  missing : Nat
  bits : Nat
  low : UInt8
  high : UInt8

/-- What the first byte of a sequence says. -/
inductive First where
  | complete (c : Char)
  | begun (p : Partial)
  | malformed

/-- Reads the first byte of a sequence. -/
def first (b : UInt8) : First :=
  let n := b.toNat
  if n < 0x80 then .complete (Char.ofNat n)
  else if n < 0xC2 then .malformed
  else if n < 0xE0 then .begun ⟨1, n % 0x20, 0x80, 0xBF⟩
  else if n < 0xF0 then
    .begun ⟨2, n % 0x10, if n = 0xE0 then 0xA0 else 0x80, if n = 0xED then 0x9F else 0xBF⟩
  else if n < 0xF5 then
    .begun ⟨3, n % 0x08, if n = 0xF0 then 0x90 else 0x80, if n = 0xF4 then 0x8F else 0xBF⟩
  else .malformed

/-- Decodes bytes, given the character that was begun; `none` stands for a malformed sequence. -/
def decodeFrom : Option Partial → List UInt8 → List (Option Char)
  | none, [] => []
  | some _, [] => [none]
  | none, b :: rest =>
    match first b with
    | .complete c => some c :: decodeFrom none rest
    | .begun p => decodeFrom (some p) rest
    | .malformed => none :: decodeFrom none rest
  | some p, b :: rest =>
    if p.low ≤ b ∧ b ≤ p.high then
      let bits := p.bits * 0x40 + b.toNat % 0x40
      if p.missing = 1 then some (Char.ofNat bits) :: decodeFrom none rest
      else decodeFrom (some ⟨p.missing - 1, bits, 0x80, 0xBF⟩) rest
    else
      match first b with
      | .complete c => none :: some c :: decodeFrom none rest
      | .begun q => none :: decodeFrom (some q) rest
      | .malformed => none :: none :: decodeFrom none rest

/-- The text that bytes encode, if they do. -/
def decode? (bytes : List UInt8) : Option (List Char) := (decodeFrom none bytes).mapM id

/-- The text that bytes encode, with replacement characters for malformed sequences. -/
def decodeLenient (bytes : List UInt8) : List Char :=
  (decodeFrom none bytes).map fun c => c.getD '\uFFFD'

/-- The bytes of a text. -/
def encode (text : String) : List UInt8 := text.toList.flatMap String.utf8EncodeChar

end Utf8

end ScriptOutline
