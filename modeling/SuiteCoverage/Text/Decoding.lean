/-!
# Bytes as text

A source or data file has to be UTF-8; what a child program wrote need not be. Its bytes are
decoded leniently: every maximal part of the input that no well-formed sequence continues
becomes one replacement character, and decoding goes on with the byte that did not fit.

The decoder holds what is still outstanding of the sequence it is in, so that each byte is
looked at once.
-/

set_option autoImplicit false

namespace SuiteCoverage
namespace Text

/-- The character that stands for a malformed part. -/
def replacement : Char := '\uFFFD'

/-- What has been read of a sequence so far. -/
inductive Decoding where
  /-- Between two characters. -/
  | ground
  /-- `missing + 1` more bytes are due, the next of them between `low` and `high`; `bits` is the
      code point as far as it is known. -/
  | inside (missing : Nat) (low high : UInt8) (bits : Nat)

/-- What a byte between two characters starts: a character by itself, a longer sequence, or
    nothing that is well formed. The bounds on the second byte keep out overlong forms,
    surrogates and everything beyond U+10FFFF. -/
def Decoding.first (byte : UInt8) : Decoding × List Char :=
  let n := byte.toNat
  if n < 0x80 then (.ground, [Char.ofNat n])
  else if n < 0xC2 then (.ground, [replacement])
  else if n < 0xE0 then (.inside 0 0x80 0xBF (n - 0xC0), [])
  else if n = 0xE0 then (.inside 1 0xA0 0xBF 0, [])
  else if n = 0xED then (.inside 1 0x80 0x9F 0xD, [])
  else if n < 0xF0 then (.inside 1 0x80 0xBF (n - 0xE0), [])
  else if n = 0xF0 then (.inside 2 0x90 0xBF 0, [])
  else if n < 0xF4 then (.inside 2 0x80 0xBF (n - 0xF0), [])
  else if n = 0xF4 then (.inside 2 0x80 0x8F 4, [])
  else (.ground, [replacement])

/-- One byte on: the state after it and the characters it completes. -/
def Decoding.step : Decoding → UInt8 → Decoding × List Char
  | .ground, byte => Decoding.first byte
  | .inside missing low high bits, byte =>
    if low ≤ byte ∧ byte ≤ high then
      let bits := bits * 64 + (byte.toNat - 0x80)
      match missing with
      | 0 => (.ground, [Char.ofNat bits])
      | missing + 1 => (.inside missing 0x80 0xBF bits, [])
    else
      let (state, chars) := Decoding.first byte
      (state, replacement :: chars)

/-- The characters that `bytes` stand for from a given state on. -/
def Decoding.run : Decoding → List UInt8 → List Char
  | .ground, [] => []
  | .inside .., [] => [replacement]
  | state, byte :: rest =>
    let (state, chars) := state.step byte
    chars ++ state.run rest

/-- Lenient decoding of whatever bytes there are. -/
def decodeLenient (bytes : ByteArray) : String :=
  match String.fromUTF8? bytes with
  | some text => text
  | none => String.ofList (Decoding.ground.run bytes.toList)

end Text

/-!
## Texts of bytes

A script deals in bytes and does not ask what characters they make up. Inside the shell a text
therefore has one character for every byte, with the byte as its code. Texts change their form
where they cross the border: the environment, paths and arguments of other programs are
ordinary texts.
-/

namespace Shell

/-- The text with a character for every byte. -/
def ofBytes (bytes : ByteArray) : String :=
  String.ofList (bytes.toList.map fun byte => Char.ofNat byte.toNat)

/-- The bytes that the characters of a text stand for. -/
def toBytes (text : String) : ByteArray :=
  ⟨(text.toList.map fun c => UInt8.ofNat c.toNat).toArray⟩

/-- An ordinary text with a character for every byte that encodes it. -/
def ofText (text : String) : String :=
  ofBytes text.toUTF8

/-- The ordinary text whose bytes the characters stand for. -/
def toText (text : String) : String :=
  Text.decodeLenient (toBytes text)

end Shell
end SuiteCoverage
