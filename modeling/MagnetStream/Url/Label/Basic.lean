import MagnetStream.Text.Blank
import MagnetStream.Text.Composed
import MagnetStream.Text.Quoted
import MagnetStream.Url.Label.Direction
import MagnetStream.Url.Label.Joining
import MagnetStream.Url.Punycode

/-!
# Labels of host names

A label with characters beyond ASCII has two forms: the one that is read, and the one that goes over
the wire, which is written in letters, digits and hyphens behind a mark. Both stand for the same
label only if it is in order: composed, without hyphens where the mark has its own, not starting
with a combining mark, and with characters that go together.
-/

namespace MagnetStream.Url

/-- Why a host name is not in order. Positions count from one. -/
inductive NameFault where
  | longName
  | emptyLabel
  | longLabel
  | notComposed
  | hyphensInside
  | hyphenAtEnd
  | markInFront
  | badCharacter (c : Char) (position : Nat) (label : List Char)
  | misplaced (c : Char) (position : Nat) (label : List Char)
  | badJoiner (c : Char) (position : Nat) (label : List Char)
  | badDirection (fault : Label.DirectionFault) (label : List Char)
  | nothingWritten
  | hyphenBehind
  | unreadable
deriving DecidableEq, Repr

/-- The report on directions that do not go together. -/
def Label.DirectionFault.message (label : String) : Label.DirectionFault → String
  | unknown position =>
    "Unknown directionality in label " ++ label ++ " at position " ++ toString position
  | start => "First codepoint in label " ++ label ++ " must be directionality L, R or AL"
  | wrongWay position toLeft =>
    "Invalid direction for codepoint at position " ++ toString position ++ " in a " ++
      (if toLeft then "right-to-left" else "left-to-right") ++ " label"
  | mixedNumbers => "Can not mix numeral types in a right-to-left label"
  | ending => "Label ends with illegal codepoint directionality"

def codePointName (c : Char) : String := "U+" ++ Text.upper (Text.hexPadded 4 c.toNat)

/-- The report on a host name that is not in order. -/
def NameFault.message : NameFault → String
  | longName => "Domain too long"
  | emptyLabel => "Empty Label"
  | longLabel => "Label too long"
  | notComposed => "Label must be in Normalization Form C"
  | hyphensInside => "Label has disallowed hyphens in 3rd and 4th position"
  | hyphenAtEnd => "Label must not start or end with a hyphen"
  | markInFront => "Label begins with an illegal combining character"
  | badCharacter c position label =>
    "Codepoint " ++ codePointName c ++ " at position " ++ toString position ++ " of " ++
      quoted label ++ " not allowed"
  | misplaced c position label =>
    "Codepoint " ++ codePointName c ++ " not allowed at position " ++ toString position ++ " in " ++
      quoted label
  | badJoiner c position label =>
    "Unknown codepoint adjacent to joiner " ++ codePointName c ++ " at position " ++
      toString position ++ " in " ++ quoted label
  | badDirection fault label => fault.message (quoted label)
  | nothingWritten => "Malformed A-label, no Punycode eligible content found"
  | hyphenBehind => "A-label must not end with a hyphen"
  | unreadable => "Invalid A-label"
where
  quoted (label : List Char) : String := Text.quoted (String.ofList label)

namespace Label

/-- The longest label in the form that goes over the wire. -/
def maxLength : Nat := 63

/-- The longest name with a point at its end, in either form. -/
def maxNameLength : Nat := 254

/-- The mark of a label whose characters beyond ASCII are written in letters, digits and hyphens. -/
def wireMark : List Char := ['x', 'n', '-', '-']

/-- Checks one character of a label, given what is before it, the nearest character first, and what
is behind it. -/
def checkCharacter (label before : List Char) (c : Char) (after : List Char) :
    Except NameFault Unit :=
  let position := before.length + 1
  if isPlain c then .ok ()
  else if c == nonJoiner || c == joiner then
    if joins before c after then .ok () else .error (.badJoiner c position label)
  else
    match fits? before c after with
    | some true => .ok ()
    | some false => .error (.misplaced c position label)
    | none => .error (.badCharacter c position label)

/-- Checks the rest of a label, given what is before it, the nearest character first. -/
def checkCharacters (label before : List Char) : List Char → Except NameFault Unit
  | [] => .ok ()
  | c :: after => do
    checkCharacter label before c after
    checkCharacters label (c :: before) after

def check (label : List Char) : Except NameFault Unit := do
  if label.isEmpty then throw .emptyLabel
  if maxNameLength < label.length then throw .longLabel
  if !Text.isComposed label then throw .notComposed
  if (label.drop 2).take 2 == ['-', '-'] then throw .hyphensInside
  if label.head? == some '-' || label.getLast? == some '-' then throw .hyphenAtEnd
  if nearest Text.isMark label then throw .markInFront
  checkCharacters label [] label
  (checkDirections label).mapError (.badDirection · label)

/-- The label that is written behind the mark. -/
def decodeWritten (written : List Char) : Except NameFault (List Char) := do
  if written.isEmpty then throw .nothingWritten
  if written.getLast? == some '-' then throw .hyphenBehind
  match Punycode.decode? written with
  | some label =>
    check label
    return label
  | none => throw .unreadable

/-- A label in the form that is read. A label of ASCII may be in the other form, and its letters may
be of either case. -/
def decode (label : List Char) : Except NameFault (List Char) := do
  let isWire := label.all Punycode.isBasic
  let label := if isWire then Text.lower label else label
  if isWire && wireMark.isPrefixOf label then decodeWritten (label.drop wireMark.length)
  else
    check label
    return label

/-- A label in the form that goes over the wire. -/
def encode (label : List Char) : Except NameFault (List Char) := do
  let _ ← decode label
  let wire := if label.all Punycode.isBasic then label else wireMark ++ Punycode.encode label
  if maxLength < wire.length then throw .longLabel
  return wire

end Label
end MagnetStream.Url
