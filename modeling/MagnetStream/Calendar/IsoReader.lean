import MagnetStream.Calendar.Moment
import MagnetStream.Text.Quoted

/-!
# Reading moments

A moment is read from its ISO 8601 text: a date as year, month and day or as year, week and day of
the week, in the long or the short form; any one character; the time of day in hours, minutes,
seconds and a fraction; and an offset or `Z`. Everything behind the date may be missing. A time
without offset is universal time.
-/

namespace MagnetStream.Calendar

inductive MomentFault where
  | malformed (text : String)
  | range (fault : RangeFault)
  | offset (offset : Duration)
deriving DecidableEq, Repr

def MomentFault.message : MomentFault → String
  | .malformed text => "Invalid isoformat string: " ++ Text.quoted text
  | .range fault => fault.message
  | .offset span =>
    "offset must be a timedelta strictly between -timedelta(hours=24) and " ++
      "timedelta(hours=24), not " ++ span.toSum ++ "."

namespace IsoReader

/-- The number that `count` digits at the start of a text write, and what follows them. -/
def takeNumber? (count : Nat) (text : List Char) : Option (Nat × List Char) :=
  let digits := text.take count
  if digits.length = count ∧ digits.all Char.isDigit then
    some (digits.foldl (fun n c => n * 10 + (c.toNat - 48)) 0, text.drop count)
  else none

/-- Where the date ends, which the characters behind the year decide. A week is followed by a day of
the week only if that leaves digits in pairs for the time. -/
def dateLength? (text : List Char) : Option Nat :=
  let length := text.length
  let isAt (index : Nat) (c : Char) : Bool := text[index]? == some c
  if length = 7 then some 7
  else if isAt 4 '-' then
    if isAt 5 'W' then
      if length < 8 then none
      else if isAt 8 '-' then
        if length = 9 then none
        else if (text[10]?.map Char.isDigit).getD false then some 8
        else some 10
      else some 8
    else some 10
  else if isAt 4 'W' then
    let stop := 7 + ((text.drop 7).takeWhile Char.isDigit).length
    if stop < 9 then some stop
    else if stop % 2 = 0 then some 7
    else some 8
  else some 8

/-- The day on which the first week of a year starts, the week that holds its first Thursday; it may
lie before the calendar. -/
def firstMonday (year : Nat) : Int :=
  let first : Int := (Date.toDay ⟨year, 1, 1⟩ : Nat)
  let monday := first - first % 7
  if first % 7 ≤ 3 then monday else monday + 7

/-- Whether a year has a week 53. -/
def hasLongYear (year : Nat) : Bool :=
  let weekday := Date.toDay ⟨year, 1, 1⟩ % 7
  weekday == 3 || (weekday == 2 && isLeap year)

/-- A date by week and day of the week; the year 0 has no such dates. -/
def dateOfWeek? (year week day : Nat) : Option (Except RangeFault Date) :=
  if week = 0 ∨ 53 < week ∨ (week = 53 ∧ !hasLongYear year) then none
  else if day = 0 ∨ 7 < day then none
  else
    let number := firstMonday year + ((week - 1) * 7 + (day - 1) : Nat)
    if year = 0 then some (.error .month)
    else
      let date := Date.ofDay number.toNat
      some ((date.check).map fun _ => date)

/-- Reads the date of a text whose date has a known length. -/
def readDate? (length : Nat) (text : List Char) : Option (Except RangeFault Date) := do
  let (year, rest) ← takeNumber? 4 text
  let dashed := rest.head? == some '-'
  let rest := if dashed then rest.drop 1 else rest
  let skipDash (rest : List Char) : Option (List Char) :=
    if dashed then (if rest.head? == some '-' then some (rest.drop 1) else none) else some rest
  if rest.head? == some 'W' then
    let (week, rest) ← takeNumber? 2 (rest.drop 1)
    if text.length - rest.length < length then
      let (day, _) ← takeNumber? 1 (← skipDash rest)
      dateOfWeek? year week day
    else dateOfWeek? year week 1
  else
    let (month, rest) ← takeNumber? 2 rest
    let (day, _) ← takeNumber? 2 (← skipDash rest)
    let date : Date := ⟨year, month, day⟩
    some ((date.check).map fun _ => date)

/-- A time of day or the size of an offset. -/
structure Clock where
  hours : Nat
  minutes : Nat
  seconds : Nat
  microseconds : Nat
deriving DecidableEq, Repr

def Clock.span (clock : Clock) : Duration :=
  ⟨((clock.hours * 60 + clock.minutes) * 60 + clock.seconds : Nat) * Duration.perSecond +
    clock.microseconds⟩

/-- Checks that a time of day exists. -/
def Clock.check (clock : Clock) : Except RangeFault Unit :=
  if 24 ≤ clock.hours then .error .hour
  else if 60 ≤ clock.minutes then .error .minute
  else if 60 ≤ clock.seconds then .error .second
  else .ok ()

/-- Reads the fraction of a second, whose first six digits count. The flag tells whether something
else follows it. -/
def readFraction? (left : Nat) (text : List Char) : Option (Nat × Bool) := do
  let count := min left 6
  let (n, rest) ← takeNumber? count text
  let after := (rest.dropWhile Char.isDigit).head?.getD '\x00'
  some (n * Nat.pow 10 (6 - count), after != '\x00')

/-- Reads the parts of a clock behind those read so far. Of the text, `left` characters belong to
the clock; a separator is either used between all parts or between none. The flag tells whether
something follows the clock. -/
def readParts? (read : List Nat) (colons : Bool) : Nat → Nat → List Char →
    Option (List Nat × Nat × Bool)
  | 0, left, text => (readFraction? left text).map fun (n, more) => (read.reverse, n, more)
  | missing + 1, left, text => do
    let (n, rest) ← takeNumber? 2 text
    let next := rest.head?.getD '\x00'
    let colons := if read.isEmpty then next == ':' else colons
    let left' := left - 3
    if left' = 0 then some ((n :: read).reverse, 0, next != '\x00')
    else if colons && next == ':' then readParts? (n :: read) colons missing left' (rest.drop 1)
    else if next == '.' || next == ',' then
      (readFraction? left' (rest.drop 1)).map fun (m, more) => ((n :: read).reverse, m, more)
    else if !colons then readParts? (n :: read) colons missing (left - 2) rest
    else none

/-- Reads a clock of at least hours from the first `left` characters of a text. -/
def readClock? (left : Nat) (text : List Char) : Option (Clock × Bool) := do
  let (parts, microseconds, more) ← readParts? [] true 3 left text
  some (⟨parts.getD 0 0, parts.getD 1 0, parts.getD 2 0, microseconds⟩, more)

def startsOffset (c : Char) : Bool := c == '+' || c == '-' || c == 'Z'

/-- Reads the time of day and the offset, if there is one. -/
def readTime? (text : List Char) : Option (Clock × Option Duration) := do
  let left := (text.takeWhile fun c => !startsOffset c).length
  let (clock, more) ← readClock? left text
  match text.drop left with
  | [] => if more then none else some (clock, none)
  | 'Z' :: rest => if (rest.head?.getD '\x00') == '\x00' then some (clock, some ⟨0⟩) else none
  | sign :: rest =>
    let (size, more) ← readClock? rest.length rest
    if more then none
    else
      let span := size.span
      -- An offset of less than a second counts as none.
      if span.microseconds < Duration.perSecond then some (clock, some ⟨0⟩)
      else some (clock, some (if sign == '-' then ⟨-span.microseconds⟩ else span))

/-- The text with every character beyond ASCII repeated as often as it has bytes, since lengths
count bytes. -/
def widened (text : List Char) : List Char :=
  text.flatMap fun c => if c.toNat < 128 then [c] else List.replicate c.utf8Size c

end IsoReader

open IsoReader in
def Moment.ofText (text : String) : Except MomentFault Moment :=
  let chars := widened text.toList
  let parsed := do
    if chars.length < 7 then none
    let length ← dateLength? chars
    let date ← readDate? length chars
    match chars.drop length with
    | [] => some (date, (⟨0, 0, 0, 0⟩ : Clock), none)
    | separator :: rest =>
      let after := if separator.toNat < 128 then rest else rest.drop (separator.utf8Size - 1)
      let (clock, offset) ← readTime? after
      some (date, clock, offset)
  match parsed with
  | none => .error (.malformed text)
  | some (date, clock, offset) =>
    let offset := offset.getD ⟨0⟩
    if Duration.perDay ≤ offset.microseconds.natAbs then .error (.offset offset)
    else
      match date with
      | .error fault => .error (.range fault)
      | .ok date =>
        match clock.check with
        | .error fault => .error (.range fault)
        | .ok () => .ok ⟨date.toDay * Duration.perDay + clock.span.microseconds, offset⟩

end MagnetStream.Calendar
