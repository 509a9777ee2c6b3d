import MagnetStream.Text.Blank
import MagnetStream.Url.Percent

/-!
# Forms

The fields of a form are written as names and values with an equals sign between them and an
ampersand between fields. A blank is written as a plus sign, and everything else that is not
unreserved as percent escapes. What is read may leave the equals sign out, and have ampersands with
nothing between them.
-/

namespace MagnetStream.Http.Form

def encodePart (text : String) : List Char :=
  text.toList.flatMap fun c =>
    if c == ' ' then ['+'] else if Url.isUnreserved c then [c] else Url.escapeChar c

def encodeField (field : String × String) : List Char :=
  encodePart field.1 ++ '=' :: encodePart field.2

def encode (fields : List (String × String)) : List Char :=
  ['&'].intercalate (fields.map encodeField)

/-- The text that a name or a value stands for. -/
def decodePart (part : List Char) : String :=
  String.ofList (Url.unescape (part.map fun c => if c == '+' then ' ' else c))

def decodeField (field : List Char) : String × String :=
  let (name, value) := Text.splitAtChar '=' field
  (decodePart name, decodePart (value.getD []))

def decode (form : List Char) : List (String × String) :=
  ((Text.splitOnChar '&' form).filter (!·.isEmpty)).map decodeField

def mediaType : String := "application/x-www-form-urlencoded"

end MagnetStream.Http.Form
