/-! # Bytes as text

Text in UTF-8, and what becomes of bytes that are not.

* **`Utf8.decode?`** — the text of well-formed bytes.
* **`Utf8.decodeLossy`** — the text of any bytes; each longest start of a character that does not go
  on becomes one replacement character. -/

namespace SpeakerHub.Utf8

/-- The text that bytes encode, if they are well formed. -/
def decode? (bytes : List UInt8) : Option String :=
  String.fromUTF8? (ByteArray.mk bytes.toArray)

/-- The bytes of a text. -/
def encode (text : String) : List UInt8 :=
  text.toUTF8.data.toList

/-- A character whose first bytes have been read. -/
structure Begun where
  /-- How many bytes are missing. -/
  missing : Nat
  /-- The least next byte. -/
  low : UInt8
  /-- The greatest next byte. -/
  high : UInt8
  /-- The bits read so far. -/
  bits : Nat

/-- A lossy decoder: the character it is in, if any, and the text behind it, last character
first. -/
structure Decoder where
  /-- The character that has begun. -/
  open? : Option Begun
  /-- The characters so far. -/
  decoded : List Char

namespace Decoder

/-- What stands for bytes that are no character. -/
def replacement : Char :=
  '\uFFFD'

/-- What the first byte of a character does. -/
def begin (decoded : List Char) (b : UInt8) : Decoder :=
  let lead (missing : Nat) (low high : UInt8) (bits : Nat) : Decoder :=
    { open? := some { missing, low, high, bits }, decoded }
  if b < 0x80 then { open? := none, decoded := Char.ofNat b.toNat :: decoded }
  -- The bounds of the second byte leave out characters that have a shorter form, surrogates, and
  -- numbers beyond the last character.
  else if 0xC2 ≤ b ∧ b ≤ 0xDF then lead 1 0x80 0xBF (b.toNat - 0xC0)
  else if b = 0xE0 then lead 2 0xA0 0xBF 0
  else if b = 0xED then lead 2 0x80 0x9F 0xD
  else if 0xE1 ≤ b ∧ b ≤ 0xEF then lead 2 0x80 0xBF (b.toNat - 0xE0)
  else if b = 0xF0 then lead 3 0x90 0xBF 0
  else if 0xF1 ≤ b ∧ b ≤ 0xF3 then lead 3 0x80 0xBF (b.toNat - 0xF0)
  else if b = 0xF4 then lead 3 0x80 0x8F 4
  else { open? := none, decoded := replacement :: decoded }

/-- What a byte does. -/
def step (d : Decoder) (b : UInt8) : Decoder :=
  match d.open? with
  | none => begin d.decoded b
  | some p =>
    if p.low ≤ b ∧ b ≤ p.high then
      let bits := 64 * p.bits + (b.toNat - 0x80)
      if p.missing = 1 then { open? := none, decoded := Char.ofNat bits :: d.decoded }
      else { d with open? := some { missing := p.missing - 1, low := 0x80, high := 0xBF, bits } }
    else begin (replacement :: d.decoded) b

/-- The text when no more bytes come. -/
def finish (d : Decoder) : String :=
  String.ofList (if d.open?.isSome then replacement :: d.decoded else d.decoded).reverse

end Decoder

/-- The text of bytes, with replacements for what is not well formed. -/
def decodeLossy (bytes : List UInt8) : String :=
  (bytes.foldl Decoder.step { open? := none, decoded := [] }).finish

end SpeakerHub.Utf8
