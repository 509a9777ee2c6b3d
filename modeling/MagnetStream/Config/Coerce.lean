import MagnetStream.Checked
import MagnetStream.Config.Directory

/-!
# Reading settings from JSON values

Settings are read leniently: numbers may come as texts or truth values, and whole numbers as
floating-point numbers without a fraction.
-/

namespace MagnetStream.Config

/-- The text of a number without its sign, and whether that was a minus. -/
def takeSign : List Char → Bool × List Char
  | '-' :: rest => (true, rest)
  | '+' :: rest => (false, rest)
  | text => (false, text)

/-- The text without its underscores, if each of them stands between two other characters. -/
def withoutUnderscores? (text : List Char) : Option (List Char) :=
  if (Text.splitOnChar '_' text).all fun group => !group.isEmpty then
    some (text.filter (· != '_'))
  else none

/-- What is left of a number behind zeros, of which the last character is kept at hand: zeros and
underscores go on, a point needs that last character in front of it, and a digit or a minus starts
what is left. -/
def behindZeros (last : Char) : List Char → Option (List Char)
  | [] => some [last]
  | c :: rest =>
    if c == '0' || c == '_' then behindZeros c rest
    else if c == '.' then some (last :: c :: rest)
    else if c == '-' || c.isDigit then some (c :: rest)
    else none

def withoutZeros : List Char → Option (List Char)
  | '0' :: rest => behindZeros '0' rest
  | c :: rest => if c == '-' || c.isDigit then some (c :: rest) else none
  | [] => none

/-- A number without a fraction of nothing but zeros. -/
def withoutFraction (text : List Char) : List Char :=
  match Text.splitAtChar '.' text with
  | (whole, some zeros) => if !zeros.isEmpty && zeros.all (· == '0') then whole else text
  | (_, none) => text

/-- The most characters that the text of a whole number may have in its plainest form. -/
def maxIntLength : Nat := 4300

/-- Reads a whole number in its plainest form: digits without a zero in front, and a minus before
them if it is negative. -/
def plainInt (text : List Char) : Except Problem Int :=
  let (negative, digits) := match text with
    | '-' :: rest => (true, rest)
    | _ => (false, text)
  let (run, rest) := digits.span Char.isDigit
  if run.head? == some '0' then
    if run.length = 1 ∧ rest.isEmpty then .ok 0 else .error .intParsing
  else if maxIntLength < run.length + (if negative then 1 else 0) then .error .intTooLong
  else if run.isEmpty || !rest.isEmpty then .error .intParsing
  else
    let n : Int := Binary64.natOfDigits run
    .ok (if negative then -n else n)

/-- Brings the text of a whole number into its plainest form. A plus goes unless a minus is behind
it; then zeros in front, a fraction of zeros and underscores between digits go. -/
def plainest? (text : List Char) : Option (List Char) := do
  let unsigned := match text with
    | '+' :: '-' :: _ => text
    | '+' :: rest => rest
    | _ => text
  let significant ← match unsigned with
    | '-' :: rest => (withoutZeros rest).map ('-' :: ·)
    | _ => withoutZeros unsigned
  let whole := withoutFraction significant
  some ((withoutUnderscores? whole).getD whole)

/-- Reads a whole number from a text. -/
def intOfText (text : String) : Except Problem Int :=
  match plainest? (Text.trimBy Text.isNumberBlank text.toList) with
  | some plain => plainInt plain
  | none => .error .intParsing

/-- Reads a whole number from a floating-point number, which must fit 64 bits. -/
def intOfFloat (x : Binary64) : Except Problem Int :=
  match x.truncate with
  | .error _ => .error .notFinite
  | .ok _ =>
    match x.toInt? with
    | some n => if n.natAbs < 0x8000000000000000 then .ok n else .error .intTooLong
    | none => .error .intFromFloat

def readInt : Json → Except Problem Int
  | .bool b => .ok (if b then 1 else 0)
  | .int n => .ok n
  | .float x => intOfFloat x
  | .str text => intOfText text
  | _ => .error .intType

/-- Reads a floating-point number that is written plainly or by name. -/
def plainFloat? (text : List Char) : Option Binary64 :=
  let (negative, rest) := takeSign text
  let word := Text.lower rest
  if word == "inf".toList || word == "infinity".toList then some (.infinity negative)
  else if word == "nan".toList then some .nan
  else Binary64.readUnsigned? negative rest

/-- Reads a floating-point number from a text. -/
def floatOfText (text : String) : Except Problem Binary64 :=
  match plainFloat? (Text.trimBy Text.isNumberBlank text.toList) with
  | some x => .ok x
  | none =>
    match (withoutUnderscores? text.toList).bind plainFloat? with
    | some x => .ok x
    | none => .error .floatParsing

def readFloat : Json → Except Problem Binary64
  | .bool b => .ok (.ofNat (if b then 1 else 0))
  | .int n =>
    match Binary64.ofInt? n with
    | some x => .ok x
    | none => .error .floatType
  | .float x => .ok x
  | .str text => floatOfText text
  | _ => .error .floatType

def readText : Json → Except Problem String
  | .str text => .ok text
  | _ => .error .stringType

/-- Reads one of some words. -/
def readWord {α : Type} (words : List (String × α)) : Json → Except Problem α
  | .str word =>
    match words.lookup word with
    | some meaning => .ok meaning
    | none => .error .literal
  | _ => .error .literal

/-- Reads the texts of a list from an index on. -/
def readItems (index : Nat) : List Json → Checked (List String)
  | [] => .valid []
  | item :: rest =>
    List.cons <$> (Checked.ofExcept (readText item)).under (.item index) <*>
      readItems (index + 1) rest

def readTexts : Json → Checked (List String)
  | .arr items => readItems 0 items
  | _ => .problem .listType

/-- Reads a directory. What is no text is a failure of its own. -/
def readDirectory (homes : Homes) : Json → Checked String
  | .str text =>
    match normalPath homes text with
    | .ok path => .valid path
    | .error .zeroInText => .problem (.refused Failure.zeroInText.message)
    | .error failure => .broken failure
  | value => .broken (.notAPath value.kindName)

end MagnetStream.Config
