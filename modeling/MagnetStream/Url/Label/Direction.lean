import MagnetStream.Url.Label.Characters

/-!
# The direction of labels

A label is written from left to right or from right to left, as its first character says. What is
written the other way, and what ends without a letter or a number, would be shown out of order, so
it is refused. Only labels with something that is written from right to left are looked at.
-/

namespace MagnetStream.Url.Label

inductive Direction where
  | left
  | right
  | arabicLetter
  | arabicNumber
  | number
  | sign
  | neutral
  | invisible
  | mark
deriving DecidableEq, Repr

namespace Direction

/-- The ranges of characters that are not written from left to right. Between them lie only
characters that no label holds, and marks. -/
def ranges : List (Nat × Nat × Direction) := [
  (45, 45, .sign), (48, 57, .number), (183, 183, .neutral), (697, 698, .neutral),
  (710, 719, .neutral), (748, 748, .neutral), (885, 885, .neutral), (1488, 1524, .right),
  (1568, 1610, .arabicLetter), (1632, 1641, .arabicNumber), (1646, 1775, .arabicLetter),
  (1776, 1785, .number), (1786, 1969, .arabicLetter), (1984, 2136, .right),
  (2144, 2249, .arabicLetter), (8204, 8205, .invisible), (11823, 11823, .neutral),
  (12539, 12539, .neutral), (42623, 42623, .neutral), (42775, 42783, .neutral),
  (42888, 42888, .neutral), (65139, 65139, .arabicLetter), (67584, 68850, .right),
  (68864, 68899, .arabicLetter), (68912, 68921, .arabicNumber), (69248, 69415, .right),
  (69424, 69445, .arabicLetter), (69488, 69622, .right), (124928, 125273, .right)]

/-- The marks that are written from left to right like letters. -/
def leftMarks : List Nat := [3263, 3270, 72199, 72200, 72767]

def ofChar (c : Char) : Direction :=
  if Text.isNonspacing c && !leftMarks.contains c.toNat then .mark
  else (Text.inRange? ranges c).getD .left

/-- Whether characters of a direction are written from right to left. -/
def isRight (direction : Direction) : Bool := [right, arabicLetter, arabicNumber].contains direction

end Direction

/-- Why the directions of a label do not go together. -/
inductive DirectionFault where
  | unknown (position : Nat)
  | start
  | wrongWay (position : Nat) (toLeft : Bool)
  | mixedNumbers
  | ending
deriving DecidableEq, Repr

/-- Checks the rest of a label from right to left, given the position of its first character,
whether what comes before can end the label, and which kind of numbers it holds. -/
def checkToLeft (position : Nat) (ends : Bool) (numbers : Option Direction) :
    List Direction → Except DirectionFault Unit
  | [] => if ends then .ok () else .error .ending
  | .left :: _ => .error (.wrongWay position true)
  | .mark :: rest => checkToLeft (position + 1) ends numbers rest
  | direction :: rest =>
    if direction == .number || direction == .arabicNumber then
      if numbers.any (· != direction) then .error .mixedNumbers
      else checkToLeft (position + 1) true (some direction) rest
    else
      checkToLeft (position + 1) (direction == .right || direction == .arabicLetter) numbers rest

/-- Checks the rest of a label from left to right, given the position of its first character and
whether what comes before can end the label. -/
def checkToRight (position : Nat) (ends : Bool) : List Direction → Except DirectionFault Unit
  | [] => if ends then .ok () else .error .ending
  | .mark :: rest => checkToRight (position + 1) ends rest
  | direction :: rest =>
    if direction.isRight then .error (.wrongWay position false)
    else checkToRight (position + 1) (direction == .left || direction == .number) rest

def checkDirections (label : List Char) : Except DirectionFault Unit :=
  match label.findIdx? isLater with
  | some index => .error (.unknown (index + 1))
  | none =>
    let directions := label.map Direction.ofChar
    if directions.any Direction.isRight then
      match directions.head? with
      | some .right | some .arabicLetter => checkToLeft 1 false none directions
      | some .left => checkToRight 1 false directions
      | _ => .error .start
    else .ok ()

end MagnetStream.Url.Label
