import MagnetStream.Json.Basic
import MagnetStream.Text.Blank

/-!
# Log events

An event has a level, a name and named values. Values that are credentials are masked before an
event leaves the program: their first four characters stay, and short ones vanish altogether.
-/

namespace MagnetStream.Log

/-- How important an event is, as a number. Only some of the numbers have names. -/
structure Level where
  rank : Int
deriving DecidableEq, Repr

namespace Level

def debug : Level := ⟨10⟩
def info : Level := ⟨20⟩
def warning : Level := ⟨30⟩
def error : Level := ⟨40⟩
def critical : Level := ⟨50⟩

/-- The levels with names, from the least to the most important. -/
def all : List Level := [debug, info, warning, error, critical]

/-- The words for the levels with names; the level zero stands for none. -/
def words : List (Level × String) := [
  (⟨0⟩, "notset"), (debug, "debug"), (info, "info"), (warning, "warning"), (error, "error"),
  (critical, "critical")]

def word (level : Level) : String :=
  (words.lookup level).getD ("level " ++ toString level.rank)

/-- The level that a word means, in either case. -/
def ofWord? (word : String) : Option Level :=
  all.find? fun level => level.word == String.ofList (Text.lower word.toList)

end Level

structure Event where
  level : Level
  name : String
  fields : List (String × Json)
deriving Repr

def secretNames : List String := ["api_token", "token", "authorization"]

/-- How many characters of a credential are shown. -/
def shownLength : Nat := 4

/-- A credential with all but its first characters hidden. -/
def maskSecret (secret : String) : String :=
  if secret.length ≤ shownLength then "***"
  else String.ofList (secret.toList.take shownLength) ++ "***"

/-- A named value, masked if it is a credential. Only texts are masked. -/
def maskField (name : String) (value : Json) : Json :=
  match value with
  | .str secret => if secretNames.contains name then .str (maskSecret secret) else value
  | _ => value

/-- Named values with the credentials among them masked. -/
def maskFields (fields : List (String × Json)) : List (String × Json) :=
  fields.map fun (name, value) => (name, maskField name value)

def Event.masked (event : Event) : Event := { event with fields := maskFields event.fields }

end MagnetStream.Log
