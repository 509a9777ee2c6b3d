import MagnetStream.Text.Utf8

/-!
# Percent escapes

A character that must not stand for itself is written as the bytes of its UTF-8 form, each of them
as a percent sign and two hexadecimal digits in capitals.
-/

namespace MagnetStream.Url

def hexCapital (n : Nat) : Char := if n < 10 then Char.ofNat (48 + n) else Char.ofNat (55 + n)

def escapeByte (byte : UInt8) : List Char :=
  ['%', hexCapital (byte.toNat / 16), hexCapital (byte.toNat % 16)]

def escapeChar (c : Char) : List Char := (String.utf8EncodeChar c).flatMap escapeByte

/-- A text in which every character that is not safe is escaped. -/
def escape (safe : Char → Bool) (text : List Char) : List Char :=
  text.flatMap fun c => if safe c then [c] else escapeChar c

/-- Letters and digits of ASCII and four marks, which are never escaped. -/
def isUnreserved (c : Char) : Bool :=
  ('a' ≤ c && c ≤ 'z') || ('A' ≤ c && c ≤ 'Z') || c.isDigit ||
    c == '-' || c == '.' || c == '_' || c == '~'

def hexValue? (c : Char) : Option Nat :=
  if c.isDigit then some (c.toNat - 48)
  else if 'a' ≤ c ∧ c ≤ 'f' then some (c.toNat - 87)
  else if 'A' ≤ c ∧ c ≤ 'F' then some (c.toNat - 55)
  else none

/-- The bytes that a text with escapes stands for. -/
def unescapeBytes : List Char → List UInt8
  | '%' :: high :: low :: after =>
    match hexValue? high, hexValue? low with
    | some h, some l => UInt8.ofNat (h * 16 + l) :: unescapeBytes after
    | _, _ => UInt8.ofNat 37 :: unescapeBytes (high :: low :: after)
  | c :: rest => String.utf8EncodeChar c ++ unescapeBytes rest
  | [] => []

def unescape (text : List Char) : List Char := Text.decodeUtf8Lossy (unescapeBytes text)

end MagnetStream.Url
