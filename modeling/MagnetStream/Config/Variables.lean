import MagnetStream.Config.Layer
import MagnetStream.Config.Settings

/-!
# Environment variables

Settings may come from variables of the environment, with a fixed text in front of their flat names.
Names are compared without regard to case. A file of variables only adds those that are not exported
under the very same name; of two spellings of one name, the later one counts. A value in a file may
mention other variables.
-/

namespace MagnetStream.Config

/-- Variables in the order in which they were set. -/
abbrev Variables := List (String × String)

namespace Variables

/-- What stands in front of the name of every setting. -/
def front : String := "debridstream_"

/-- A name without regard to case. The sign for kelvin is a capital K. -/
def fold (name : String) : String :=
  String.ofList (name.toList.map fun c => if c.toNat = 0x212A then 'k' else Text.lowerChar c)

def behindBrace? : List Char → Option (List Char)
  | '\x7d' :: behind => some behind
  | _ => none

/-- The name and the default in a mention of a variable that a text starts with, and what is behind
it. A mention is a dollar sign and a name in braces; a colon and a minus may set a default off. -/
def mention? : List Char → Option ((List Char × List Char) × List Char)
  | '$' :: '\x7b' :: inside =>
    let inName (c : Char) := c != '\x7d' && c != ':'
    let name := inside.takeWhile inName
    match inside.dropWhile inName with
    | ':' :: '-' :: rest =>
      (behindBrace? (rest.dropWhile (· != '\x7d'))).map
        ((name, rest.takeWhile (· != '\x7d')), ·)
    | rest => (behindBrace? rest).map ((name, []), ·)
  | _ => none

theorem behindBrace?_shorter {text behind : List Char} (found : behindBrace? text = some behind) :
    behind.length < text.length := by
  unfold behindBrace? at found
  split at found
  · simp only [Option.some.injEq] at found
    simp [found]
  · simp at found

theorem mention?_shorter {text behind : List Char} {found : List Char × List Char}
    (mentioned : mention? text = some (found, behind)) : behind.length < text.length := by
  unfold mention? at mentioned
  split at mentioned
  · rename_i inside
    dsimp only at mentioned
    have outer := (List.dropWhile_sublist (l := inside)
      fun c : Char => c != '\x7d' && c != ':').length_le
    split at mentioned
    · rename_i rest shown
      have inner := (List.dropWhile_sublist (l := rest) (· != '\x7d')).length_le
      rw [shown] at outer
      simp only [Option.map_eq_some_iff, Prod.mk.injEq] at mentioned
      obtain ⟨_, brace, _, rfl⟩ := mentioned
      have := behindBrace?_shorter brace
      simp only [List.length_cons] at outer ⊢
      omega
    · simp only [Option.map_eq_some_iff, Prod.mk.injEq] at mentioned
      obtain ⟨_, brace, _, rfl⟩ := mentioned
      have := behindBrace?_shorter brace
      simp only [List.length_cons]
      omega
  · simp at mentioned

/-- A text with the values of the variables that it mentions. -/
def resolve (value? : String → Option String) : List Char → List Char
  | [] => []
  | c :: rest =>
    match mentioned : mention? (c :: rest) with
    | some ((name, default), behind) =>
      have := mention?_shorter mentioned
      ((value? (String.ofList name)).map String.toList).getD default ++ resolve value? behind
    | none => c :: resolve value? rest
termination_by text => text.length
decreasing_by
  · assumption
  · exact Nat.lt_succ_self _

/-- The variables of a file with the values of the variables that they mention: the exported ones,
or else those in front of them. A name that stands twice has its last value at its first place. -/
def resolved (exported file : Variables) : Variables :=
  file.foldl (fun before (name, text) =>
    let value? (other : String) := exported.lookup other <|> before.lookup other
    Entries.insert before name (String.ofList (resolve value? text.toList))) []

/-- The variables of a file that are not exported. -/
def added (exported file : Variables) : Variables :=
  (resolved exported file).filter fun (name, _) => !(exported.any fun (other, _) => other == name)

/-- The exported variables together with those of a file. No value can hold the character zero. -/
def withFile (exported file : Variables) : Except Failure Variables :=
  let added := exported.added file
  if added.any fun (_, value) => value.toList.contains '\x00' then .error .zeroInText
  else .ok (exported ++ added)

/-- The value of a setting: that of the last variable with its name. -/
def setting? (vars : Variables) (name : String) : Option String :=
  (vars.reverse.find? fun (other, _) => fold other == front ++ name).map Prod.snd

/-- The variable in a line of a file: a name, an equals sign and a value. Lines that are empty or
start with a number sign hold none. -/
def ofLine? (line : List Char) : Option (String × String) :=
  match Text.splitAtChar '=' (Text.trimBy Text.isBlank line) with
  | ('#' :: _, _) | ([], _) | (_, none) => none
  | (name, some value) =>
    some (String.ofList (Text.trimBy Text.isBlank name),
      String.ofList (Text.trimBy Text.isBlank value))

def ofText (text : String) : Variables := (Text.splitOnChar '\n' text.toList).filterMap ofLine?

/-- Reads a setting and puts it into a layer in a form that reads back the same. -/
def entry {α : Type} (vars : Variables) (name : String) (read : String → Checked α)
    (write : α → Json) : Checked (Option (String × Json)) :=
  match setting? vars name with
  | none => .valid none
  | some text => (fun value => some (name, write value)) <$> (read text).under (.member name)

def textEntry (vars : Variables) (name : String) : Checked (Option (String × Json)) :=
  entry vars name .valid .str

def wordEntry {α : Type} (words : List (String × α)) (vars : Variables) (name : String) :
    Checked (Option (String × Json)) :=
  entry vars name
    (fun text => (fun _ => text) <$> .ofExcept (readWord words (.str text))) .str

/-- A setting that is a whole number. -/
def intEntry (vars : Variables) (name : String) : Checked (Option (String × Json)) :=
  entry vars name (fun text => .ofExcept (intOfText text)) .int

/-- A setting that is a floating-point number. -/
def floatEntry (vars : Variables) (name : String) : Checked (Option (String × Json)) :=
  entry vars name (fun text => .ofExcept (floatOfText text)) .float

def directoryEntry (homes : Homes) (vars : Variables) (name : String) :
    Checked (Option (String × Json)) :=
  entry vars name (fun text => readDirectory homes (.str text)) .str

/-- A setting that is a list of texts, written as JSON; null means that it is not set. What is not
JSON is taken for a text, and so for no list; values nested too deep are a failure of their own. -/
def listEntry [Json.Nesting] (vars : Variables) (name : String) :
    Checked (Option (String × Json)) :=
  match setting? vars name with
  | none => .valid none
  | some text =>
    match Json.read text.toList with
    | .ok .null => .valid none
    | .ok value =>
      (fun texts => some (name, .arr (texts.map .str))) <$> (readTexts value).under (.member name)
    | .error (.limit (.nesting container)) => .broken (.jsonLimit (.nesting container))
    | .error _ => (Checked.problem .listType).under (.member name)

def readEntries : List (Checked (Option (String × Json))) → Checked Layer
  | [] => .valid []
  | entry :: rest =>
    (fun (found : Option (String × Json)) layer => found.toList ++ layer) <$> entry <*>
      readEntries rest

/-- The layer of all settings that variables give. -/
def layer [Json.Nesting] (homes : Homes) (vars : Variables) : Checked Layer :=
  readEntries [
    textEntry vars "app_name",
    wordEntry environments vars "environment",
    textEntry vars "debrid_base_url",
    floatEntry vars "debrid_timeout_seconds",
    intEntry vars "debrid_cache_age_seconds",
    listEntry vars "debrid_extra_headers",
    intEntry vars "debrid_poll_budget",
    floatEntry vars "debrid_poll_interval_seconds",
    wordEntry backends vars "cache_backend",
    directoryEntry homes vars "cache_dir",
    textEntry vars "cache_redis_url",
    intEntry vars "cache_max_concurrent",
    wordEntry logLevels vars "log_level",
    wordEntry logFormats vars "log_format"]

end Variables
end MagnetStream.Config
