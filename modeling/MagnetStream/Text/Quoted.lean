import MagnetStream.Text.Printable

/-!
# Quoted text

A text is quoted in single quotes, or in double quotes when it holds a single quote and no double
one. Line feed, carriage return, tab, the backslash and the quote in use are escaped; a character
that does not print is written by its code point in two, four or eight hexadecimal digits.
-/

namespace MagnetStream.Text

/-- Hexadecimal digits in small letters, padded with zeros to a width. -/
def hexPadded (width n : Nat) : String :=
  let digits := Nat.toDigits 16 n
  String.ofList (List.replicate (width - digits.length) '0' ++ digits)

def codePointEscape (c : Char) : String :=
  if c.toNat < 256 then "\\x" ++ hexPadded 2 c.toNat
  else if c.toNat < 65536 then "\\u" ++ hexPadded 4 c.toNat
  else "\\U" ++ hexPadded 8 c.toNat

/-- How one character is written inside quotes of the kind `quote`. -/
def quotedChar (quote c : Char) : String :=
  if c == quote || c == '\\' then String.ofList ['\\', c]
  else if c == '\n' then "\\n"
  else if c == '\r' then "\\r"
  else if c == '\t' then "\\t"
  else if isPrintable c then String.singleton c
  else codePointEscape c

/-- The quotes for a text: double quotes only if that saves escapes of single ones. -/
def quoteFor (text : String) : Char :=
  if text.toList.contains '\'' && !text.toList.contains '"' then '"' else '\''

def quoted (text : String) : String :=
  let quote := quoteFor text
  String.singleton quote ++ String.join (text.toList.map (quotedChar quote)) ++
    String.singleton quote

end MagnetStream.Text
