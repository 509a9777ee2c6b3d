/-!
# Blank space and trimming

Blank space is white space, the line and paragraph separators and the four information separators
of ASCII. Trimming takes characters off the ends of a text and never touches its middle.
-/

namespace MagnetStream.Text

/-- The characters that count as blank space. -/
def isBlank (c : Char) : Bool :=
  let n := c.toNat
  (9 ≤ n && n ≤ 13) || (28 ≤ n && n ≤ 32) || n == 133 || n == 160 || n == 5760 ||
    (8192 ≤ n && n ≤ 8202) || n == 8232 || n == 8233 || n == 8239 || n == 8287 || n == 12288

/-- Drops the longest final part whose characters all satisfy `p`. -/
def dropEndWhile (p : Char → Bool) (text : List Char) : List Char :=
  (text.reverse.dropWhile p).reverse

/-- Drops the characters that satisfy `p` from both ends. -/
def trimBy (p : Char → Bool) (text : List Char) : List Char :=
  dropEndWhile p (text.dropWhile p)

/-- Drops blank space from both ends. -/
def trim (text : String) : String := String.ofList (trimBy isBlank text.toList)

def dropEndChar (c : Char) (text : String) : String :=
  String.ofList (dropEndWhile (· == c) text.toList)

/-- One capital letter A to Z becomes small; every other character stays. -/
def lowerChar (c : Char) : Char := if 'A' ≤ c ∧ c ≤ 'Z' then Char.ofNat (c.toNat + 32) else c

/-- Small letters for A to Z and nothing else. -/
def lower (text : List Char) : List Char := text.map lowerChar

/-- Splits a text before the first character that satisfies `p`. -/
def splitBefore (p : Char → Bool) (text : List Char) : List Char × List Char :=
  text.span (fun c => !p c)

/-- Splits a text at its first `c`, which belongs to neither part; without one, the second part is
absent. -/
def splitAtChar (c : Char) (text : List Char) : List Char × Option (List Char) :=
  match splitBefore (· == c) text with
  | (before, _ :: after) => (before, some after)
  | (before, []) => (before, none)

/-- Splits a text at its last `c`, which belongs to neither part. -/
def splitAtLastChar? (c : Char) (text : List Char) : Option (List Char × List Char) :=
  match splitAtChar c text.reverse with
  | (after, some before) => some (before.reverse, after.reverse)
  | (_, none) => none

/-- Every part of a text between the occurrences of `c`. -/
def splitOnChar (c : Char) : List Char → List (List Char)
  | [] => [[]]
  | x :: rest =>
    match splitOnChar c rest with
    | [] => [[x]]
    | part :: parts => if x == c then [] :: part :: parts else (x :: part) :: parts

/-- Texts written one after the other with `separator` between them. -/
def joined (separator : String) (parts : List String) : String := separator.intercalate parts

end MagnetStream.Text
