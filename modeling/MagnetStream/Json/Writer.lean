import MagnetStream.Json.Basic

/-!
# Writing JSON

Values on one line in ASCII, with a blank behind commas and colons. What lies beyond ASCII is
escaped in units of UTF-16.
-/

namespace MagnetStream.Json

def unitEscape (unit : Nat) : String := "\\u" ++ Text.hexPadded 4 unit

def escapedChar (c : Char) : String :=
  if c == '"' then "\\\""
  else if c == '\\' then "\\\\"
  else if c == '\n' then "\\n"
  else if c == '\r' then "\\r"
  else if c == '\t' then "\\t"
  else if c.toNat == 12 then "\\f"
  else if c.toNat == 8 then "\\b"
  else if 32 ≤ c.toNat && c.toNat < 127 then String.singleton c
  else if c.toNat < 0x10000 then unitEscape c.toNat
  else
    let code := c.toNat - 0x10000
    unitEscape (0xD800 + code / 1024) ++ unitEscape (0xDC00 + code % 1024)

def writeString (text : String) : String :=
  "\"" ++ String.join (text.toList.map escapedChar) ++ "\""

/-- A floating-point number; the values that are no numbers have names. -/
def writeFloat : Binary64 → String
  | .nan => "NaN"
  | .infinity false => "Infinity"
  | .infinity true => "-Infinity"
  | x => x.toText

mutual

def write : Json → String
  | null => "null"
  | bool true => "true"
  | bool false => "false"
  | int n => toString n
  | float x => writeFloat x
  | str text => writeString text
  | arr items => "[" ++ ", ".intercalate (writeItems items) ++ "]"
  | obj members => "\x7b" ++ ", ".intercalate (writeMembers members) ++ "\x7d"

def writeItems : List Json → List String
  | [] => []
  | item :: rest => write item :: writeItems rest

def writeMembers : List (String × Json) → List String
  | [] => []
  | (name, value) :: rest => (writeString name ++ ": " ++ write value) :: writeMembers rest

end

/-- Whether a value can be written at all. -/
def isWritable [Nesting] (value : Json) : Bool := value.fits Nesting.writing

end MagnetStream.Json
