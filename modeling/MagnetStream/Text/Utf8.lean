/-!
# Reading UTF-8

A reader of UTF-8 that goes on after an error: every longest part that starts a character and cannot
be finished counts as one fault. A text without faults is read exactly, and a text with faults can
be shown with a replacement mark for each of them.
-/

namespace MagnetStream.Text

/-- The mark that stands for what could not be read. -/
def replacement : Char := Char.ofNat 0xFFFD

/-- The character of a code point; a surrogate, which is no character, becomes the mark. -/
def charOfCode (code : Nat) : Char :=
  if code.isValidChar then Char.ofNat code else replacement

namespace Utf8

/-- A character that has begun: how many bytes are missing, the bits read so far, and the range of
the next byte. -/
structure Pending where
  missing : Nat
  bits : Nat
  low : Nat
  high : Nat

/-- Whether surrogates may be written like characters of three bytes. -/
inductive Surrogates where
  | refused
  | accepted
deriving DecidableEq

/-- What one byte outside a character does: it is a character, begins one, or is a fault. -/
inductive Start where
  | char (c : Char)
  | begins (pending : Pending)
  | fault

/-- The meaning of a byte outside a character. -/
def start (surrogates : Surrogates) (byte : UInt8) : Start :=
  let b := byte.toNat
  if b < 0x80 then .char (Char.ofNat b)
  else if b < 0xC2 then .fault
  else if b < 0xE0 then .begins ⟨1, b - 0xC0, 0x80, 0xBF⟩
  else if b == 0xE0 then .begins ⟨2, 0, 0xA0, 0xBF⟩
  else if b == 0xED then
    .begins ⟨2, 13, 0x80, if surrogates = .accepted then 0xBF else 0x9F⟩
  else if b < 0xF0 then .begins ⟨2, b - 0xE0, 0x80, 0xBF⟩
  else if b == 0xF0 then .begins ⟨3, 0, 0x90, 0xBF⟩
  else if b < 0xF4 then .begins ⟨3, b - 0xF0, 0x80, 0xBF⟩
  else if b == 0xF4 then .begins ⟨3, 4, 0x80, 0x8F⟩
  else .fault

/-- Reads bytes inside or outside a character; a fault is `none`. -/
def readFrom (surrogates : Surrogates) : Option Pending → List UInt8 → List (Option Char)
  | none, [] => []
  | some _, [] => [none]
  | none, byte :: rest =>
    match start surrogates byte with
    | .char c => some c :: readFrom surrogates none rest
    | .begins pending => readFrom surrogates (some pending) rest
    | .fault => none :: readFrom surrogates none rest
  | some pending, byte :: rest =>
    let b := byte.toNat
    if pending.low ≤ b ∧ b ≤ pending.high then
      let bits := pending.bits * 64 + (b - 0x80)
      if pending.missing ≤ 1 then some (charOfCode bits) :: readFrom surrogates none rest
      else readFrom surrogates (some ⟨pending.missing - 1, bits, 0x80, 0xBF⟩) rest
    else
      match start surrogates byte with
      | .char c => none :: some c :: readFrom surrogates none rest
      | .begins pending => none :: readFrom surrogates (some pending) rest
      | .fault => none :: none :: readFrom surrogates none rest

end Utf8

/-- The text of bytes without any fault. -/
def decodeUtf8? (surrogates : Utf8.Surrogates) (bytes : List UInt8) : Option (List Char) :=
  (Utf8.readFrom surrogates none bytes).mapM id

/-- The text of bytes, with the mark for every fault. -/
def decodeUtf8Lossy (bytes : List UInt8) : List Char :=
  (Utf8.readFrom .refused none bytes).map (·.getD replacement)

def encodeUtf8 (text : String) : List UInt8 := text.toUTF8.data.toList

end MagnetStream.Text
