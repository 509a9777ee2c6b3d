import MagnetStream.Calendar.Date
import MagnetStream.Calendar.Duration

/-!
# Moments

A moment is what a wall clock shows together with its distance from universal time. Two moments are
compared by their instants, whatever their wall clocks show.
-/

namespace MagnetStream.Calendar

/-- A moment. The wall clock counts microseconds from the start of the calendar, and runs ahead of
universal time by the offset. -/
structure Moment where
  wall : Int
  offset : Duration
deriving DecidableEq, Repr

namespace Moment

/-- The microseconds of the calendar. -/
def wallEnd : Int := dayCount * Duration.perDay

/-- Microseconds from the start of the calendar in universal time. -/
def instant (moment : Moment) : Int := moment.wall - moment.offset.microseconds

/-- The time from one moment to a later one. -/
def since (later earlier : Moment) : Duration := ⟨later.instant - earlier.instant⟩

/-- Whether the wall clock shows a time of the calendar. -/
def InRange (moment : Moment) : Prop := 0 ≤ moment.wall ∧ moment.wall < wallEnd

instance (moment : Moment) : Decidable moment.InRange := inferInstanceAs (Decidable (_ ∧ _))

/-- The moment if its wall clock shows a time of the calendar. -/
def checked? (moment : Moment) : Option Moment := if moment.InRange then some moment else none

/-- The same instant in universal time, unless it lies outside the calendar. -/
def toUniversal? (moment : Moment) : Option Moment := checked? ⟨moment.instant, ⟨0⟩⟩

/-- The moment that is a span later on the same clock, unless it lies outside the calendar. -/
def advance? (moment : Moment) (span : Duration) : Option Moment :=
  checked? ⟨moment.wall + span.microseconds, moment.offset⟩

def date (moment : Moment) : Date := Date.ofDay (moment.wall / Duration.perDay).toNat

/-- Date and time of day, with a fraction of the second unless it is zero. -/
def wallText (moment : Moment) : String :=
  let date := moment.date
  let (hours, minutes, seconds, rest) := Duration.clock ⟨moment.wall⟩
  Duration.padded 4 date.year ++ "-" ++ Duration.padded 2 date.month ++ "-" ++
    Duration.padded 2 date.day ++ "T" ++ Duration.padded 2 hours ++ ":" ++
    Duration.padded 2 minutes ++ ":" ++ Duration.padded 2 seconds ++
    (if rest = 0 then "" else "." ++ Duration.padded 6 rest)

/-- The sign and size of an offset in hours and minutes, and in smaller parts if there are any. -/
def offsetText (offset : Duration) : String :=
  let size : Duration := ⟨offset.microseconds.natAbs⟩
  let rest := size.microseconds.toNat % 1000000
  let seconds := size.microseconds.toNat / 1000000
  (if offset.microseconds < 0 then "-" else "+") ++ Duration.padded 2 (seconds / 3600) ++ ":" ++
    Duration.padded 2 (seconds / 60 % 60) ++
    (if seconds % 60 = 0 ∧ rest = 0 then "" else ":" ++ Duration.padded 2 (seconds % 60)) ++
    (if rest = 0 then "" else "." ++ Duration.padded 6 rest)

/-- Date, time of day and offset. -/
def toText (moment : Moment) : String := moment.wallText ++ offsetText moment.offset

/-- The start of the year 1970 in universal time. -/
def epoch : Moment := ⟨Date.toDay ⟨1970, 1, 1⟩ * Duration.perDay, ⟨0⟩⟩

end Moment
end MagnetStream.Calendar
