/-!
# Punycode

A text with any characters is written in letters, digits and hyphens: first the characters of ASCII
and a hyphen, then for each other character, the least first, how far its place is from that of the
one before. A place counts through the whole text once for every code point. The distances are
numbers to the base 36 whose digits say themselves which of them is the last one: a digit below its
threshold. The thresholds follow the size of the distances so far.
-/

namespace MagnetStream.Url.Punycode

def digit (value : Nat) : Char :=
  if value < 26 then Char.ofNat (97 + value) else Char.ofNat (22 + value)

/-- The value of a digit, which may be a letter of either case. -/
def value? (c : Char) : Option Nat :=
  if 'a' ≤ c && c ≤ 'z' then some (c.toNat - 97)
  else if 'A' ≤ c && c ≤ 'Z' then some (c.toNat - 65)
  else if '0' ≤ c && c ≤ '9' then some (c.toNat - 22)
  else none

/-- The threshold at a place: the places of a number are 36 apart, the first one is 36. -/
def threshold (bias place : Nat) : Nat :=
  if place ≤ bias + 1 then 1 else if bias + 26 ≤ place then 26 else place - bias

theorem threshold_pos (bias place : Nat) : 0 < threshold bias place := by
  unfold threshold; split <;> (try split) <;> omega

/-- A number in digits, the least one first. -/
def writeNumber (bias place n : Nat) : List Char :=
  let t := threshold bias place
  if n < t then [digit n]
  else digit (t + (n - t) % (36 - t)) :: writeNumber bias (place + 36) ((n - t) / (36 - t))
termination_by n
decreasing_by
  have positive := threshold_pos bias place
  have small := Nat.div_le_self (n - threshold bias place) (36 - threshold bias place)
  omega

/-- Reads a number, given what its digits so far make and what the next digit counts. -/
def readNumber? (bias place weight sum : Nat) : List Char → Option (Nat × List Char)
  | [] => none
  | c :: rest =>
    match value? c with
    | none => none
    | some value =>
      let t := threshold bias place
      let sum := sum + value * weight
      if value < t then some (sum, rest)
      else readNumber? bias (place + 36) (weight * (36 - t)) sum rest

theorem readNumber?_shorter {bias place weight sum n : Nat} {text rest : List Char}
    (read : readNumber? bias place weight sum text = some (n, rest)) :
    rest.length < text.length := by
  induction text generalizing place weight sum with
  | nil => simp [readNumber?] at read
  | cons c tail ih =>
    unfold readNumber? at read
    split at read
    · simp at read
    · dsimp only at read
      split at read
      · simp only [Option.some.injEq, Prod.mk.injEq] at read
        simp [read.2]
      · have := ih read
        simp only [List.length_cons]
        omega

/-- Divides a distance by 35 until it is at most 455, and counts 36 for each time. -/
def shrink (distance count : Nat) : Nat × Nat :=
  if 455 < distance then shrink (distance / 35) (count + 36) else (distance, count)
termination_by distance
decreasing_by exact Nat.div_lt_self (by omega) (by omega)

/-- The bias that follows a distance in a text that has some length with the new character. The
first distance is mostly large and says little. -/
def adapt (distance length : Nat) (isFirst : Bool) : Nat :=
  let part := if isFirst then distance / 700 else distance / 2
  let (part, count) := shrink (part + part / length) 0
  count + 36 * part / (part + 38)

/-- What writing has come to: the digits so far, the distance from the last place, the bias, and how
many characters are written. -/
structure Progress where
  digits : List Char
  distance : Nat
  bias : Nat
  written : Nat

/-- Passes a character of the text in search of a code point. -/
def pass (basics code : Nat) (progress : Progress) (c : Char) : Progress :=
  if c.toNat < code then { progress with distance := progress.distance + 1 }
  else if c.toNat == code then
    { digits := progress.digits ++ writeNumber progress.bias 36 progress.distance
      distance := 0
      bias := adapt progress.distance (progress.written + 1) (progress.written == basics)
      written := progress.written + 1 }
  else progress

/-- Writes the characters with certain code points, which come in order and start at `next` or
later. -/
def writeCodes (text : List Char) (basics next : Nat) (progress : Progress) : List Nat → List Char
  | [] => progress.digits
  | code :: codes =>
    let distance := progress.distance + (code - next) * (progress.written + 1)
    let progress := text.foldl (pass basics code) { progress with distance }
    writeCodes text basics (code + 1) { progress with distance := progress.distance + 1 } codes

def isBasic (c : Char) : Bool := c.toNat < 128

/-- A text in letters, digits and hyphens. -/
def encode (text : List Char) : List Char :=
  let basics := text.filter isBasic
  let codes := ((text.filter (!isBasic ·)).map Char.toNat).mergeSort.eraseDups
  let coded := writeCodes text basics.length 128 ⟨[], 0, 72, basics.length⟩ codes
  if basics.isEmpty then coded else basics ++ '-' :: coded

/-- Reads characters into a text, given the bias, the least next code point and the least next
position, which is zero for the first character only. -/
def readCodes? (bias code position : Nat) (text : List Char) : List Char → Option (List Char)
  | [] => some text
  | c :: rest =>
    match read : readNumber? bias 36 1 0 (c :: rest) with
    | none => none
    | some (distance, rest') =>
      let length := text.length + 1
      let next := code + (position + distance) / length
      let place := (position + distance) % length
      if next.isValidChar then
        readCodes? (adapt distance length (position == 0)) next (place + 1)
          (text.insertIdx place (Char.ofNat next)) rest'
      else none
termination_by digits => digits.length
decreasing_by
  have := readNumber?_shorter read
  simpa using this

/-- The text that letters, digits and hyphens write. -/
def decode? (coded : List Char) : Option (List Char) :=
  let (digits, basics) := coded.reverse.span (· != '-')
  readCodes? 72 128 0 (basics.drop 1).reverse digits.reverse

end MagnetStream.Url.Punycode
