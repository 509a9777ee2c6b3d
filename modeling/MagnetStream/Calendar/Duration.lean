import MagnetStream.Binary64.Basic

/-!
# Spans of time

A span of time is a whole number of microseconds, forward or backward.
-/

namespace MagnetStream.Calendar

/-- A span of time in microseconds. -/
structure Duration where
  microseconds : Int
deriving DecidableEq, Repr

namespace Duration

def perSecond : Int := 1000000

def perDay : Int := 86400000000

def ofSeconds (seconds : Int) : Duration := ⟨seconds * perSecond⟩

instance : Sub Duration := ⟨fun a b => ⟨a.microseconds - b.microseconds⟩⟩
instance : LT Duration := ⟨fun a b => a.microseconds < b.microseconds⟩
instance : LE Duration := ⟨fun a b => a.microseconds ≤ b.microseconds⟩
instance (a b : Duration) : Decidable (a < b) := Int.decLt a.microseconds b.microseconds
instance (a b : Duration) : Decidable (a ≤ b) := Int.decLe a.microseconds b.microseconds

/-- The whole days of a span, rounded down. -/
def days (span : Duration) : Int := span.microseconds.fdiv perDay

/-- The most days that a span may have in either direction. -/
def maxDays : Int := 999999999

/-- Whether a number of days fits the 32 bits that count them. -/
def Countable (days : Int) : Prop := -0x80000000 ≤ days ∧ days < 0x80000000

instance (days : Int) : Decidable (Countable days) := inferInstanceAs (Decidable (_ ∧ _))

/-- Why a number of seconds is no span. -/
inductive Fault where
  | number (fault : Binary64.WholeFault)
  | tooLong (days : Int)
  | uncountable
deriving DecidableEq, Repr

/-- Checks that a span is not too long. -/
def check (span : Duration) : Except Fault Duration :=
  if span.days.natAbs ≤ maxDays then .ok span
  else if Countable span.days then .error (.tooLong span.days)
  else .error .uncountable

/-- The span of a number of seconds, rounded to the nearest microsecond. The part behind the point
is scaled on its own, so that no more than its last bits are lost. -/
def ofFloatSeconds (seconds : Binary64) : Except Fault Duration := do
  let whole ← seconds.truncate.mapError .number
  let behind := (seconds.fraction.mul (.ofNat 1000000)).round
  check ⟨whole * perSecond + behind⟩

/-- A natural number with zeros in front. -/
def padded (width n : Nat) : String :=
  let digits := toString n
  String.ofList (List.replicate (width - digits.length) '0') ++ digits

/-- Hours, minutes and seconds of a part of a day, and what is left of the second. -/
def clock (span : Duration) : Nat × Nat × Nat × Nat :=
  let rest := (span.microseconds - span.days * perDay).toNat
  let seconds := rest / 1000000
  (seconds / 3600, seconds / 60 % 60, seconds % 60, rest % 1000000)

/-- A span as days, hours, minutes and seconds; a span backward has negative days. -/
def toText (span : Duration) : String :=
  let (hours, minutes, seconds, rest) := span.clock
  let days := span.days
  let front :=
    if days = 0 then ""
    else toString days ++ (if days.natAbs = 1 then " day, " else " days, ")
  front ++ toString hours ++ ":" ++ padded 2 minutes ++ ":" ++ padded 2 seconds ++
    (if rest = 0 then "" else "." ++ padded 6 rest)

/-- A span as the sum of its parts, with the parts that are zero left out. -/
def toSum (span : Duration) : String :=
  let (hours, minutes, seconds, rest) := span.clock
  let seconds := (hours * 60 + minutes) * 60 + seconds
  let part (name : String) (n : Int) := if n = 0 then [] else [name ++ "=" ++ toString n]
  let parts := part "days" span.days ++ part "seconds" seconds ++ part "microseconds" rest
  "datetime.timedelta(" ++ (if parts.isEmpty then "0" else ", ".intercalate parts) ++ ")"

end Duration
end MagnetStream.Calendar
