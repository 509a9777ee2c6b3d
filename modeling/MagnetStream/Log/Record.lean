import MagnetStream.Calendar.Moment
import MagnetStream.Log.Event
import MagnetStream.Log.Template

/-!
# Log records

A record is an event on its way out, with the name of its logger. Events of the program are masked
and lose their coloured message and what only concerns the way; messages of other programs are
filled in, as far as they can be, and are not masked. Both get level, logger and timestamp, whatever
they said about these themselves.
-/

namespace MagnetStream.Log

/-- Drops the coloured message, which only repeats the plain one. -/
def dropColor (fields : List (String × Json)) : List (String × Json) :=
  Entries.erase fields "color_message"

/-- The names under which an event carries what only concerns its way out. -/
def passingNames : List String := ["exc_info", "_record", "_from_structlog"]

def dropPassing (fields : List (String × Json)) : List (String × Json) :=
  passingNames.foldl Entries.erase fields

/-- Why a number of seconds is no timestamp. -/
inductive StampFault where
  | notANumber
  | tooLarge
  | yearTooLarge
  | year (year : Int)
deriving DecidableEq, Repr

/-- The report on a number of seconds that is no timestamp. -/
def StampFault.message : StampFault → String
  | notANumber => "Invalid value NaN (not a number)"
  | tooLarge => "timestamp out of range for platform time_t"
  | yearTooLarge => "[Errno 75] Value too large for defined data type"
  | year n => (Calendar.RangeFault.year n).message

def yearOfAnyDay (day : Int) : Int :=
  let cycles := day.fdiv 146097
  (Calendar.yearOfDay (day - cycles * 146097).toNat).1 + cycles * 400

/-- The moment that is a number of seconds from the start of 1970, to the nearest microsecond. -/
def momentOfSeconds (seconds : Binary64) : Except StampFault Calendar.Moment := do
  let whole ← seconds.truncate.mapError fun
    | .notANumber => .notANumber
    | .infinite => .tooLarge
  if 0x8000000000000000 ≤ whole.natAbs then .error .tooLarge
  else
    let behind := (seconds.fraction.mul (.ofNat 1000000)).round
    let wall := Calendar.Moment.epoch.wall + whole * Calendar.Duration.perSecond + behind
    match (⟨wall, ⟨0⟩⟩ : Calendar.Moment).checked? with
    | some moment => .ok moment
    | none =>
      let reached := yearOfAnyDay (wall.fdiv Calendar.Duration.perDay)
      .error (if 0x80000000 ≤ reached.natAbs then .yearTooLarge else .year reached)

/-- A moment of universal time as the timestamp of a record. -/
def timestamp (moment : Calendar.Moment) : String := moment.wallText ++ "Z"

def stamp (created : Calendar.Moment) (fields : List (String × Json)) : List (String × Json) :=
  Entries.insert fields "timestamp" (.str (timestamp created))

inductive Content where
  /-- An event of the program. -/
  | event (name : String) (fields : List (String × Json))
  /-- A message of another program, with values to fill in. -/
  | message (template : String) (values : List Json)

/-- A record on its way out. -/
structure Record where
  logger : String
  level : Level
  content : Content

/-- The logger above all others has no name of its own in the hierarchy. -/
def rootName : String := "root"

def shownLogger (logger : String) : String := if logger.isEmpty then rootName else logger

/-- What a record says of itself, before it is stamped, if its message can be filled in. -/
def Content.fields? [Json.Nesting] : Content → Option (List (String × Json))
  | .event name fields =>
    some (maskFields (dropPassing (dropColor (Entries.insertAll fields [("event", .str name)]))))
  | .message template values => (fill? template values).map fun text => [("event", .str text)]

/-- A record with what it says of itself. -/
structure Line where
  record : Record
  said : List (String × Json)

def Line.fields (time : String) (line : Line) : List (String × Json) :=
  Entries.insertAll line.said [
    ("timestamp", .str time), ("logger", .str (shownLogger line.record.logger)),
    ("level", .str line.record.level.word)]

/-- Whether a line can be written as JSON, at any time. -/
def Line.isWritable [Json.Nesting] (line : Line) : Bool := (Json.obj (line.fields "")).isWritable

end MagnetStream.Log
