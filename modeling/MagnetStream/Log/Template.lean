import MagnetStream.Json.Writer
import MagnetStream.Text.Integer
import MagnetStream.Text.WideUnits

/-!
# Messages that are filled in

A message of another program is a template with slots. A slot is a percent sign with what belongs
to it: a key, flags, a width, a precision and a letter. Values go into the slots one after another;
a single object with members gives them by their keys. Where a slot is not well formed, a value does
not fit its letter, or values are missing or left, nothing is filled in at all.

Memory is taken to be large enough for every width.
-/

namespace MagnetStream.Log

/-! ## Reading a template -/

inductive Amount where
  | absent
  | number (n : Nat)
  | nextValue
deriving DecidableEq, Repr

structure Slot where
  key : Option String
  flags : List Char
  width : Amount
  precision : Amount
  letter : Char
deriving DecidableEq, Repr

inductive Piece where
  | plain (c : Char)
  | slot (slot : Slot)
deriving DecidableEq, Repr

/-- A text up to the bracket that closes it, and what follows; brackets inside of it go in pairs. -/
def takeBracketed? : Nat → List Char → Option (List Char × List Char)
  | _, [] => none
  | 0, ')' :: rest => some ([], rest)
  | inner, c :: rest =>
    let inner := if c == '(' then inner + 1 else if c == ')' then inner - 1 else inner
    (takeBracketed? inner rest).map fun (key, after) => (c :: key, after)

def takeKey? : List Char → Option (Option String × List Char)
  | '(' :: rest =>
    (takeBracketed? 0 rest).map fun (key, after) => (some (String.ofList key), after)
  | text => some (none, text)

def takeAmount : List Char → Amount × List Char
  | '*' :: rest => (.nextValue, rest)
  | text =>
    match Binary64.spanDigits text with
    | ([], _) => (.absent, text)
    | (digits, rest) => (.number (Binary64.natOfDigits digits), rest)

/-- A precision behind its point; the point alone stands for zero. -/
def takePrecision : List Char → Amount × List Char
  | '.' :: rest =>
    match takeAmount rest with
    | (.absent, after) => (.number 0, after)
    | given => given
  | text => (.absent, text)

/-- Passes over a letter for the size of a number, which says nothing here. -/
def dropSize : List Char → List Char
  | c :: rest => if c == 'h' || c == 'l' || c == 'L' then rest else c :: rest
  | [] => []

/-- Reads a slot behind its percent sign. -/
def readSlot? (text : List Char) : Option (Slot × List Char) := do
  let (key, text) ← takeKey? text
  let (flags, text) := text.span ['-', '+', ' ', '#', '0'].contains
  let (width, text) := takeAmount text
  let (precision, text) := takePrecision text
  match dropSize text with
  | letter :: rest => some (⟨key, flags, width, precision, letter⟩, rest)
  | [] => none

/-- Reads the first piece of a template. Two percent signs are one plain one. -/
def readPiece? : List Char → Option (Piece × List Char)
  | [] => none
  | '%' :: '%' :: rest => some (.plain '%', rest)
  | '%' :: rest => (readSlot? rest).map fun (slot, after) => (.slot slot, after)
  | c :: rest => some (.plain c, rest)

/-- Reads a template of at most `fuel` characters. -/
def readPieces? : Nat → List Char → Option (List Piece)
  | _, [] => some []
  | 0, _ => none
  | fuel + 1, text => do
    let (piece, rest) ← readPiece? text
    (readPieces? fuel rest).map (piece :: ·)

def greatestWidth : Nat := 0x7fffffffffffffff
def greatestPrecision : Nat := 0x7fffffff

/-! ## The values at hand -/

/-- Values that are left: in a row, or under keys, one of them picked out for the next slot. -/
inductive Supply where
  | row (values : List Json)
  | keyed (members : List (String × Json)) (picked : Option Json)

namespace Supply

/-- A single object with members gives its members, and itself to a slot without a key. -/
def ofValues : List Json → Supply
  | [.obj (member :: members)] => .keyed (member :: members) (some (.obj (member :: members)))
  | values => .row values

def take? : Supply → Option (Json × Supply)
  | .row (value :: rest) => some (value, .row rest)
  | .keyed members (some value) => some (value, .keyed members none)
  | _ => none

/-- Picks out the value under the key of a slot, if the slot has one. -/
def pick? (supply : Supply) : Option String → Option Supply
  | none => some supply
  | some key =>
    match supply with
    | .keyed members _ => (Entries.get? members key).map fun value => .keyed members (some value)
    | .row _ => none

/-- Whether no value of a row is left. -/
def isSpent : Supply → Bool
  | .keyed .. => true
  | .row values => values.isEmpty

end Supply

/-- The number that a width or a precision is if it is a value. -/
def countOf? : Json → Option Int
  | .int n => some n
  | .bool b => some b.toInt
  | _ => none

/-- A width or a precision as a number, which may be less than zero if it is a value. -/
def Amount.settle? (most : Nat) (supply : Supply) : Amount → Option (Option Int × Supply)
  | .absent => some (none, supply)
  | .number n => if n ≤ most then some (some n, supply) else none
  | .nextValue => do
    let (value, supply) ← supply.take?
    let n ← countOf? value
    if -(most : Int) - 1 ≤ n ∧ n ≤ most then some (some n, supply) else none

/-! ## Values by the letters of slots -/

/-- A value as it comes into a slot, before it is padded. Only numbers are padded with zeros. -/
structure Shown where
  sign : List Char
  marker : List Char
  body : List Char
  isNumber : Bool

namespace Shown

def text (body : List Char) : Shown := ⟨[], [], body, false⟩

def pad (shown : Shown) (width : Nat) (left zeros : Bool) : List Char :=
  let front := shown.sign ++ shown.marker
  let gap := width - (front.length + shown.body.length)
  if left then front ++ shown.body ++ List.replicate gap ' '
  else if zeros && shown.isNumber then front ++ List.replicate gap '0' ++ shown.body
  else List.replicate gap ' ' ++ front ++ shown.body

end Shown

/-- A text in ASCII, everything else written by its code point. -/
def asciiOnly (text : String) : String :=
  String.join (text.toList.map fun c =>
    if c.toNat < 128 then String.singleton c else Text.codePointEscape c)

namespace Slot

variable (slot : Slot)

def has (flag : Char) : Bool := slot.flags.contains flag

/-- The sign of a number: a number that is not negative may get a plus or a blank. -/
def signOf (negative : Bool) : List Char :=
  if negative then ['-'] else if slot.has '+' then ['+'] else if slot.has ' ' then [' '] else []

/-- A value as text, of which the precision is the greatest length. -/
def showText? [Json.Nesting] (precision : Option Nat) (value : Json) : Option Shown :=
  if value.isShowable then
    let text := match slot.letter with
      | 's' => value.display
      | 'r' => value.literal
      | _ => asciiOnly value.literal
    some (.text (match precision with
      | some most => text.toList.take most
      | none => text.toList))
  else none

/-- The base of a letter for whole numbers. -/
def base : Nat :=
  match slot.letter with
  | 'o' => 8
  | 'x' | 'X' => 16
  | _ => 10

/-- The whole number that a value stands for; only in base ten may a fraction be cut off. -/
def whole? : Json → Option Int
  | .int n => some n
  | .bool b => some b.toInt
  | .float x => if slot.base = 10 then x.truncate.toOption else none
  | _ => none

/-- A whole number, of which the precision is the least number of digits. -/
def showWhole? (precision : Option Nat) (value : Json) : Option Shown := do
  let n ← slot.whole? value
  let digits := Nat.toDigits slot.base n.natAbs
  let least := precision.getD 0
  if slot.base = 10 ∧ Text.maxDigits < digits.length then none
  else if greatestPrecision - 3 < least then none
  else
    let marker := if slot.has '#' && slot.base != 10 then ['0', slot.letter] else []
    let digits := List.replicate (least - digits.length) '0' ++ digits
    some ⟨slot.signOf (n < 0), marker,
      if slot.letter == 'X' then digits.map Char.toUpper else digits, true⟩

/-- Digits with a point behind the first `places` of them. Without any digit behind it the point
stands only in the alternate form. -/
def pointed (digits : List Char) (places : Int) : List Char :=
  let zeros (n : Int) := List.replicate n.toNat '0'
  let whole :=
    if places ≤ 0 then ['0'] else digits.take places.toNat ++ zeros (places - digits.length)
  let behind := zeros (-places) ++ digits.drop places.toNat
  whole ++ if behind.isEmpty && !slot.has '#' then [] else '.' :: behind

/-- Digits with a point behind the first one, and a power of ten. -/
def powered (digits : List Char) (power : Int) : List Char :=
  let size := Nat.toDigits 10 power.natAbs
  slot.pointed digits 1 ++ ['e', if power < 0 then '-' else '+'] ++
    List.replicate (2 - size.length) '0' ++ size

/-- The size of a finite number. The precision counts digits behind the point, or for the letter
`g`, which leaves out zeros at the end, all digits that count. -/
def sizeText (precision significand : Nat) (exponent : Int) : List Char :=
  let filled (count : Nat) (digits : List Char) :=
    digits ++ List.replicate (count - digits.length) '0'
  let decimal (count : Nat) : Binary64.Decimal :=
    if significand = 0 then ⟨['0'], 1⟩ else Binary64.rounded count significand exponent
  match slot.letter.toLower with
  | 'f' =>
    let (num, den) := Binary64.ratio significand exponent
    let digits := Nat.toDigits 10 (Binary64.roundHalfEven (num * Nat.pow 10 precision) den)
    let digits := List.replicate (precision + 1 - digits.length) '0' ++ digits
    slot.pointed digits (digits.length - precision)
  | 'e' =>
    let decimal := decimal (precision + 1)
    slot.powered (filled (precision + 1) decimal.digits) (decimal.point - 1)
  | _ =>
    let count := max precision 1
    let decimal := decimal count
    let digits := if slot.has '#' then filled count decimal.digits else decimal.digits
    if -4 < decimal.point ∧ decimal.point ≤ count then slot.pointed digits decimal.point
    else slot.powered digits (decimal.point - 1)

/-- The floating-point number that a value stands for. -/
def real? : Json → Option Binary64
  | .float x => some x
  | .int n => Binary64.ofInt? n
  | .bool b => some (.ofNat b.toNat)
  | _ => none

/-- A floating-point number, with six digits if there is no precision. -/
def showReal? (precision : Option Nat) (value : Json) : Option Shown := do
  let x ← real? value
  let (negative, body) := match x with
    | .nan => (false, "nan".toList)
    | .infinity negative => (negative, "inf".toList)
    | .finite negative significand exponent =>
      (negative, slot.sizeText (precision.getD 6) significand exponent)
  some ⟨slot.signOf negative, [], if slot.letter.isUpper then body.map Char.toUpper else body, true⟩

/-- A single character, or the one that a code point stands for. -/
def showChar? : Json → Option Shown
  | .str text =>
    match text.toList with
    | [c] => some (.text [c])
    | _ => none
  | .int n => if 0 ≤ n ∧ n < 0x110000 then some (.text [Text.charOfCode n.toNat]) else none
  | .bool b => some (.text [Text.charOfCode b.toNat])
  | _ => none

def show? [Json.Nesting] (precision : Option Nat) (value : Json) : Option Shown :=
  match slot.letter with
  | 's' | 'r' | 'a' => slot.showText? precision value
  | 'd' | 'i' | 'u' | 'o' | 'x' | 'X' => slot.showWhole? precision value
  | 'e' | 'E' | 'f' | 'F' | 'g' | 'G' => slot.showReal? precision value
  | 'c' => showChar? value
  | _ => none

/-- What a slot becomes, and the values that are left. -/
def fill? [Json.Nesting] (supply : Supply) : Option (List Char × Supply) := do
  let supply ← supply.pick? slot.key
  let (width, supply) ← slot.width.settle? greatestWidth supply
  let (precision, supply) ← slot.precision.settle? greatestPrecision supply
  let (value, supply) ← supply.take?
  let shown ← slot.show? (precision.map Int.toNat) value
  let width := width.getD 0
  some (shown.pad width.natAbs (slot.has '-' || width < 0) (slot.has '0'), supply)

end Slot

/-! ## Filling in -/

def fillPieces? [Json.Nesting] : Supply → List Piece → Option (List Char)
  | supply, [] => if supply.isSpent then some [] else none
  | supply, .plain c :: rest => (fillPieces? supply rest).map (c :: ·)
  | supply, .slot slot :: rest => do
    let (filled, supply) ← slot.fill? supply
    (fillPieces? supply rest).map (filled ++ ·)

/-- A template with values filled in; without values it is taken as it stands. -/
def fill? [Json.Nesting] (template : String) (values : List Json) : Option String :=
  if values.isEmpty then some template
  else do
    let pieces ← readPieces? template.length template.toList
    (fillPieces? (.ofValues values) pieces).map String.ofList

end MagnetStream.Log
