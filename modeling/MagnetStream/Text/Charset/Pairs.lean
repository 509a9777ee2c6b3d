import MagnetStream.Text.Charset.Chinese
import MagnetStream.Text.Charset.Japanese
import MagnetStream.Text.Charset.Korean

/-!
# Sets of several bytes

East Asian character sets write ASCII in one byte and their own characters in two, and some of them
in three, four or eight. A byte that starts no character is a fault, after which reading goes on
with the next byte; a character that the end of the text cuts off is one fault with all its bytes.
-/

namespace MagnetStream.Text.Charset

inductive Step where
  /-- A character of some bytes. -/
  | char (c : Char) (length : Nat)
  /-- A byte that starts no character. -/
  | fault
  /-- The beginning of a character that is cut off. -/
  | cut

/-- Reads a text step by step, with the mark for every fault. -/
def readSteps (step : UInt8 → List UInt8 → Step) : List UInt8 → List Char
  | [] => []
  | byte :: rest =>
    match step byte rest with
    | .char c length => c :: readSteps step (rest.drop (length - 1))
    | .fault => replacement :: readSteps step rest
    | .cut => [replacement]
termination_by bytes => bytes.length
decreasing_by all_goals simp only [List.length_cons, List.length_drop]; omega

/-- A step of one or two bytes: a byte alone has a character, starts a pair, or is a fault. -/
def pairStep (single? : Nat → Option Char) (starts : Nat → Bool) (pair? : Nat → Nat → Option Char)
    (byte : UInt8) (rest : List UInt8) : Step :=
  match single? byte.toNat with
  | some c => .char c 1
  | none =>
    if !starts byte.toNat then .fault
    else
      match rest with
      | [] => .cut
      | second :: _ =>
        match pair? byte.toNat second.toNat with
        | some c => .char c 2
        | none => .fault

def ascii? (byte : Nat) : Option Char := if byte < 128 then some (Char.ofNat byte) else none

/-- The number of a pair in a table with rows of 94, both bytes from 161 on. -/
def rowCell? (first second : Nat) : Option Nat :=
  if 161 ≤ first && first < 255 && 161 ≤ second && second < 255 then
    some ((first - 161) * 94 + (second - 161))
  else none

def asciiStep (pair? : Nat → Nat → Option Char) : UInt8 → List UInt8 → Step :=
  pairStep ascii? (fun _ => true) pair?

/-! ## Simplified Chinese -/

def simplified? (first second : Nat) : Option Char := (rowCell? first second).bind simplified.at?

/-- The number of an ideograph beside that table: the pairs in front of its rows, and those beside
its columns from the tenth row on. -/
def ideographCell? (first second : Nat) : Option Nat :=
  if second < 64 || second == 127 || 255 ≤ second then none
  else
    let column := if second < 127 then second - 64 else second - 65
    if 129 ≤ first && first ≤ 160 then some ((first - 129) * 190 + column)
    else if 170 ≤ first && first ≤ 254 && column < 96 then some (6080 + (first - 170) * 96 + column)
    else none

def extended? (first second : Nat) : Option Char :=
  moreSigns.at? (first * 256 + second) <|> simplified? first second <|>
    (ideographCell? first second).bind (moreIdeographs[·]?)

/-- The private characters of the national set: pairs in the corners that its tables leave free. -/
def private? (first second : Nat) : Option Char :=
  let row (start low width code : Nat) :=
    some (Char.ofNat (code + (first - start) * width + (second - low)))
  if 170 ≤ first && first ≤ 175 && 161 ≤ second && second ≤ 254 then row 170 161 94 0xe000
  else if 248 ≤ first && first ≤ 254 && 161 ≤ second && second ≤ 254 then row 248 161 94 0xe234
  else if 161 ≤ first && first ≤ 167 && 64 ≤ second && second ≤ 126 then row 161 64 96 0xe4c6
  else if 161 ≤ first && first ≤ 167 && 128 ≤ second && second ≤ 160 then row 161 65 96 0xe4c6
  else none

def national? (first second : Nat) : Option Char :=
  extended? first second <|> private? first second <|> national.at? (first * 256 + second)

/-- The code point that four bytes write, the second and the fourth of them digits. -/
def fourByte? (a b c d : Nat) : Option Nat :=
  if a < 129 || 254 < a || c < 129 || 254 < c || d < 48 || 57 < d then none
  else
    let n := ((a - 129) * 10 + (b - 48)) * 1260 + (c - 129) * 10 + (d - 48)
    if a < 133 then
      if n < 39420 then
        (fourByteRuns.reverse.find? (·.1 ≤ n)).map fun (first, code) => code + (n - first)
      else none
    else if 144 ≤ a && n - 189000 < 0x100000 then some (0x10000 + (n - 189000))
    else none

def nationalStep (byte : UInt8) (rest : List UInt8) : Step :=
  match rest with
  | second :: more =>
    if 128 ≤ byte && 48 ≤ second && second ≤ 57 then
      match more with
      | third :: fourth :: _ =>
        match fourByte? byte.toNat second.toNat third.toNat fourth.toNat with
        | some code => .char (Char.ofNat code) 4
        | none => .fault
      | _ => .cut
    else asciiStep national? byte rest
  | [] => asciiStep national? byte rest

/-! ## Traditional Chinese -/

def traditional? (first second : Nat) : Option Char :=
  let row := (first - 161) * 157
  if first < 161 then none
  else if 64 ≤ second && second < 127 then traditional.at? (row + (second - 64))
  else if 161 ≤ second && second < 255 then traditional.at? (row + 63 + (second - 161))
  else none

def vendorTraditional? (first second : Nat) : Option Char :=
  vendorTraditional.at? (first * 256 + second) <|> traditional? first second

/-! ## Korean -/

def korean? (first second : Nat) : Option Char := (rowCell? first second).bind korean.at?

/-- The number of a syllable beside the table: letters and high bytes count as columns. -/
def syllableCell? (first second : Nat) : Option Nat :=
  let column? :=
    if 65 ≤ second && second ≤ 90 then some (second - 65)
    else if 97 ≤ second && second ≤ 122 then some (second - 71)
    else if 129 ≤ second && second ≤ 254 then some (second - 77)
    else none
  column?.bind fun column =>
    if 129 ≤ first && first ≤ 160 then some ((first - 129) * 178 + column)
    else if 161 ≤ first && first ≤ 198 && column < 84 then some (5696 + (first - 161) * 84 + column)
    else none

def extendedKorean? (first second : Nat) : Option Char :=
  korean? first second <|> (syllableCell? first second).bind (moreSyllables[·]?)

/-- The place in a syllable of each of thirty letters that can start it. -/
def startPlaces : List (Option Nat) :=
  [some 0, some 1, none, some 2, none, none, some 3, some 4, some 5, none, none, none, none, none,
    none, none, some 6, some 7, some 8, none, some 9, some 10, some 11, some 12, some 13, some 14,
    some 15, some 16, some 17, some 18]

/-- The place in a syllable of each of thirty letters that can end it. -/
def endPlaces : List (Option Nat) :=
  [some 1, some 2, some 3, some 4, some 5, some 6, some 7, none, some 8, some 9, some 10, some 11,
    some 12, some 13, some 14, some 15, some 16, some 17, none, some 18, some 19, some 20, some 21,
    some 22, none, some 23, some 24, some 25, some 26, some 27]

/-- The byte that precedes every letter of a syllable in letters. -/
def letterMark : UInt8 := 164

def noLetter : UInt8 := 212

/-- The syllable of three letters, the last of which may be none. -/
def spelled? (first vowel last : UInt8) : Option Char := do
  let place (places : List (Option Nat)) (byte : UInt8) :=
    if 161 ≤ byte then (places[byte.toNat - 161]?).join else none
  let start ← place startPlaces first
  let middle ← if 191 ≤ vowel && vowel ≤ 211 then some (vowel.toNat - 191) else none
  let ending ← if last == noLetter then some 0 else place endPlaces last
  some (Char.ofNat (0xac00 + start * 588 + middle * 28 + ending))

/-- A step of the Korean set: a syllable that the table leaves out is spelled by its letters. -/
def koreanStep (byte : UInt8) (rest : List UInt8) : Step :=
  if byte == letterMark && rest.head? == some noLetter then
    match rest.drop 1 with
    | a :: first :: b :: vowel :: c :: last :: _ =>
      if a == letterMark && b == letterMark && c == letterMark then
        match spelled? first vowel last with
        | some syllable => .char syllable 8
        | none => .fault
      else .fault
    | _ => .cut
  else asciiStep korean? byte rest

/-! ## Japanese -/

def japanese? (first second : Nat) : Option Char := (rowCell? first second).bind japanese.at?

def halfWidth? (byte : Nat) : Option Char :=
  if 161 ≤ byte && byte ≤ 223 then some (Char.ofNat (0xfec0 + byte)) else none

/-- A step of the set that marks half-width letters and the second table by bytes of their own. -/
def japaneseStep (byte : UInt8) (rest : List UInt8) : Step :=
  if byte == 142 then
    match rest with
    | [] => .cut
    | second :: _ =>
      match halfWidth? second.toNat with
      | some c => .char c 2
      | none => .fault
  else if byte == 143 then
    match rest with
    | second :: third :: _ =>
      match (rowCell? second.toNat third.toNat).bind moreJapanese.at? with
      | some c => .char c 3
      | none => .fault
    | _ => .cut
  else asciiStep japanese? byte rest

/-- The number in the first Japanese table of a pair whose bytes are shifted to make room for
half-width letters: each first byte has two rows. -/
def shiftedCell? (first second : Nat) : Option Nat :=
  if second < 64 || second == 127 || 252 < second then none
  else
    let pair := if first < 224 then first - 129 else first - 193
    let column := if second < 127 then second - 64 else second - 65
    some (pair * 188 + column)

def startsShifted (byte : Nat) : Bool := (129 ≤ byte && byte ≤ 159) || (224 ≤ byte && byte ≤ 252)

def shiftedStep : UInt8 → List UInt8 → Step :=
  pairStep (fun byte => ascii? byte <|> halfWidth? byte) startsShifted
    fun first second => (shiftedCell? first second).bind japanese.at?

/-- The bytes of the vendor's shifted set that are characters alone. -/
def vendorSingle? (byte : Nat) : Option Char :=
  if byte ≤ 128 then some (Char.ofNat byte)
  else if byte == 160 then some (Char.ofNat 0xf8f0)
  else if 253 ≤ byte then some (Char.ofNat (0xf8f1 + (byte - 253)))
  else halfWidth? byte

/-- The pairs of the vendor's shifted set, with private characters behind those of the table. -/
def vendorShifted? (first second : Nat) : Option Char :=
  vendorJapanese.at? (first * 256 + second) <|>
    if first ≤ 234 then (shiftedCell? first second).bind japanese.at?
    else if 240 ≤ first && first ≤ 249 then
      (shiftedCell? first second).map fun n => Char.ofNat (0xe000 + (n - (240 - 193) * 188))
    else none

def vendorShiftedStep : UInt8 → List UInt8 → Step :=
  pairStep vendorSingle? (fun _ => true) vendorShifted?

end MagnetStream.Text.Charset
