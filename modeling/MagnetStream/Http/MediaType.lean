import MagnetStream.Text.Blank

/-!
# Media types

A media type is a kind and a kind within it, with parameters behind semicolons. A semicolon inside
double quotes ends nothing. Capital letters count as small ones.
-/

namespace MagnetStream.Http.MediaType

/-- Cuts a text at the semicolons outside of quotes. A quote behind a backslash is none. -/
def sections (quoted escaped : Bool) : List Char → List (List Char)
  | [] => [[]]
  | c :: rest =>
    let quoted := quoted != (c == '"' && !escaped)
    match sections quoted (c == '\\') rest with
    | [] => [[c]]
    | part :: parts => if c == ';' && !quoted then [] :: part :: parts else (c :: part) :: parts

/-- A text without the double quotes or angle brackets around it. -/
def unquoted (text : List Char) : List Char :=
  match text with
  | first :: second :: more =>
    let last := (second :: more).getLast?
    if (first == '"' && last == some '"') || (first == '<' && last == some '>') then
      (second :: more).dropLast
    else text
  | _ => text

/-- The parameters of a media type, each a name in small letters and a value. -/
def parameters (text : String) : List (List Char × List Char) :=
  (sections false false text.toList).map fun part =>
    let (name, value) := Text.splitAtChar '=' part
    (Text.lower (Text.trimBy Text.isBlank name),
      unquoted (Text.trimBy Text.isBlank (value.getD [])))

/-- The character set that a media type names, in small letters. -/
def charset? (text : String) : Option (List Char) :=
  ((parameters text).find? fun (name, _) => name == "charset".toList).map fun (_, value) =>
    Text.lower value

/-- Whether a media type is JSON, or of a kind that is written in JSON. -/
def isJson (text : String) : Bool :=
  let kind := Text.lower (Text.trimBy Text.isBlank (Text.splitAtChar ';' text.toList).1)
  match Text.splitOnChar '/' kind with
  | [kind, inner] =>
    kind == "application".toList && (inner == "json".toList || "+json".toList.isSuffixOf inner)
  | _ => false

end MagnetStream.Http.MediaType
