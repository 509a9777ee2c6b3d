import MagnetStream.Failure

/-!
# Headers

The name of a header may be written in any case. The extra headers that go with every request are
written as a name, a colon and a value; empty texts are skipped, blank space around name and value
does not count, and of several values for one name the last one stays.
-/

namespace MagnetStream.Http

/-- The value of the first header with a name, which is given in small letters. -/
def header? (headers : List (String × String)) (name : String) : Option String :=
  (headers.find? fun (other, _) => Text.lower other.toList == name.toList).map Prod.snd

/-- The name and the value in the text of a header, whose colon must be neither its first nor its
last character. -/
def readHeader? (text : String) : Option (String × String) :=
  match Text.splitAtChar ':' text.toList with
  | (_ :: _, some []) => none
  | (name@(_ :: _), some value) =>
    some (String.ofList (Text.trimBy Text.isBlank name),
      String.ofList (Text.trimBy Text.isBlank value))
  | _ => none

/-- Adds the header in a text to the headers read so far. -/
def addHeader (headers : Entries String) (text : String) : Except Failure (Entries String) :=
  if text.isEmpty then .ok headers
  else
    match readHeader? text with
    | some (name, value) => .ok (headers.insert name value)
    | none => .error (.badHeader text)

def readHeaders (texts : List String) : Except Failure (Entries String) :=
  texts.foldlM addHeader []

end MagnetStream.Http
