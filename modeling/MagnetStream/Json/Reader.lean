import MagnetStream.Json.Basic
import MagnetStream.Text.Integer
import MagnetStream.Text.WideUnits

/-!
# Reading JSON

A reader of JSON text that also accepts `NaN`, `Infinity` and `-Infinity`. A fault is reported at a
character of the text. Two limits are faults of their own kind: a whole number of more than 4300
digits, and values nested deeper than there is room for (`Nesting.reading`).

A text is made of whole characters, so an escape that writes only one half of a pair has no place in
it. Every such half is read as the mark U+FFFD, and names that differ in such halves only are taken
for one name: for documents that hold them, what is said of the members of an object goes no
further.
-/

namespace MagnetStream.Json

/-- What is nested too deep. -/
inductive Container where
  | array
  | object
deriving DecidableEq, Repr

/-- A limit of the reader that a well-formed text can pass. -/
inductive Limit where
  | digits (count : Nat)
  | nesting (container : Container)
deriving DecidableEq, Repr

def Limit.message : Limit → String
  | .digits count => Text.tooLongMessage count
  | .nesting .array =>
    "maximum recursion depth exceeded while decoding a JSON array from a unicode string"
  | .nesting .object =>
    "maximum recursion depth exceeded while decoding a JSON object from a unicode string"

/-- What a text that is not JSON lacks, or has too much. -/
inductive Malformation where
  | noValue
  | noName
  | noColon
  | noComma
  | openString
  | control
  | badEscape
  | badUnit
  | extra
  | byteOrderMark
deriving DecidableEq, Repr

def Malformation.reason : Malformation → String
  | noValue => "Expecting value"
  | noName => "Expecting property name enclosed in double quotes"
  | noColon => "Expecting ':' delimiter"
  | noComma => "Expecting ',' delimiter"
  | openString => "Unterminated string starting at"
  | control => "Invalid control character at"
  | badEscape => "Invalid \\escape"
  | badUnit => "Invalid \\uXXXX escape"
  | extra => "Extra data"
  | byteOrderMark => "Unexpected UTF-8 BOM (decode using utf-8-sig)"

inductive Fault where
  /-- The text is not JSON at a character. -/
  | malformed (cause : Malformation) (offset : Nat)
  | limit (limit : Limit)
deriving DecidableEq, Repr

/-- The report on a fault of a text, with the line and the column of its place. -/
def Fault.message (text : List Char) : Fault → String
  | .malformed cause offset =>
    let before := text.take offset
    let line := before.count '\n' + 1
    let column := (before.reverse.takeWhile (· != '\n')).length + 1
    cause.reason ++ ": line " ++ toString line ++ " column " ++ toString column ++
      " (char " ++ toString offset ++ ")"
  | .limit passed => passed.message

namespace Reader

/-- Why reading stopped; a malformed text is known by how many characters were left. -/
inductive Stop where
  | malformed (cause : Malformation) (left : Nat)
  | limit (limit : Limit)

def isSpace (c : Char) : Bool := c == ' ' || c == '\t' || c == '\n' || c == '\r'

/-- Drops white space. -/
def skip (text : List Char) : List Char := text.dropWhile isSpace

def hexDigit? (c : Char) : Option Nat :=
  if '0' ≤ c ∧ c ≤ '9' then some (c.toNat - 48)
  else if 'a' ≤ c ∧ c ≤ 'f' then some (c.toNat - 87)
  else if 'A' ≤ c ∧ c ≤ 'F' then some (c.toNat - 55)
  else none

/-- The value of four hexadecimal digits. -/
def hex4? (a b c d : Char) : Option Nat := do
  let a ← hexDigit? a
  let b ← hexDigit? b
  let c ← hexDigit? c
  let d ← hexDigit? d
  some (((a * 16 + b) * 16 + c) * 16 + d)

def escape? : Char → Option Char
  | '"' => some '"'
  | '\\' => some '\\'
  | '/' => some '/'
  | 'b' => some (Char.ofNat 8)
  | 'f' => some (Char.ofNat 12)
  | 'n' => some '\n'
  | 'r' => some '\r'
  | 't' => some '\t'
  | _ => none

/-- The characters read so far, in reverse order, and the first half of a character written as two
units, when it is still without its partner. -/
structure Chars where
  read : List Char
  half : Option Nat

/-- A half that found no partner becomes the mark, whichever half it is. -/
def Chars.settled (chars : Chars) : List Char :=
  match chars.half with
  | some _ => Text.replacement :: chars.read
  | none => chars.read

def Chars.push (chars : Chars) (c : Char) : Chars := ⟨c :: chars.settled, none⟩

def Chars.pushUnit (chars : Chars) (unit : Nat) : Chars :=
  match chars.half with
  | some high =>
    if Text.isLowSurrogate unit then
      ⟨Text.charOfCode (Text.joinSurrogates high unit) :: chars.read, none⟩
    else if Text.isHighSurrogate unit then ⟨chars.settled, some unit⟩
    else chars.push (Text.charOfCode unit)
  | none =>
    if Text.isHighSurrogate unit then ⟨chars.read, some unit⟩
    else chars.push (Text.charOfCode unit)

/-- Reads the inside of a string and its closing quote. A string without end is reported at its
opening quote, where `opening` characters were left. -/
def readString (opening : Nat) (chars : Chars) : List Char → Except Stop (String × List Char)
  | [] => .error (.malformed .openString opening)
  | '"' :: rest => .ok (String.ofList chars.settled.reverse, rest)
  | '\\' :: 'u' :: a :: b :: c :: d :: rest =>
    match hex4? a b c d with
    | some unit =>
      if rest.isEmpty then .error (.malformed .badUnit 5)
      else readString opening (chars.pushUnit unit) rest
    | none => .error (.malformed .badUnit (rest.length + 5))
  | '\\' :: 'u' :: rest => .error (.malformed .badUnit (rest.length + 1))
  | '\\' :: c :: rest =>
    match escape? c with
    | some char => readString opening (chars.push char) rest
    | none => .error (.malformed .badEscape (rest.length + 2))
  | c :: rest =>
    if c == '\\' then .error (.malformed .openString opening)
    else if c.toNat < 0x20 then .error (.malformed .control (rest.length + 1))
    else readString opening (chars.push c) rest

/-- The fraction of a number: a point and at least one digit, or nothing. -/
def takeFraction : List Char → List Char × List Char
  | '.' :: c :: rest =>
    if c.isDigit then
      let (digits, after) := Binary64.spanDigits (c :: rest)
      (digits, after)
    else ([], '.' :: c :: rest)
  | text => ([], text)

/-- The power of ten of a number: a mark, an optional sign and at least one digit, or nothing. -/
def takePower (text : List Char) : Option Int × List Char :=
  match text with
  | e :: rest =>
    if e == 'e' || e == 'E' then
      let (negative, digits) := match rest with
        | '-' :: digits => (true, digits)
        | '+' :: digits => (false, digits)
        | digits => (false, digits)
      match Binary64.spanDigits digits with
      | ([], _) => (none, text)
      | (power, after) =>
        let n : Int := Binary64.natOfDigits power
        (some (if negative then -n else n), after)
    else (none, text)
  | [] => (none, [])

/-- Reads a number behind its sign, which begins with a digit. Without fraction and power it is a
whole number. -/
def readNumber (negative : Bool) (text : List Char) : Except Stop (Json × List Char) :=
  let (whole, rest) := match text with
    | '0' :: rest => (['0'], rest)
    | text => Binary64.spanDigits text
  let (behind, rest) := takeFraction rest
  let (power, rest) := takePower rest
  if behind.isEmpty && power.isNone then
    if whole.length > Text.maxDigits then .error (.limit (.digits whole.length))
    else
      let n : Int := Binary64.natOfDigits whole
      .ok (.int (if negative then -n else n), rest)
  else
    let digits := Binary64.natOfDigits (whole ++ behind)
    .ok (.float (.ofDecimal negative digits (power.getD 0 - behind.length)), rest)

/-- A value that is a fixed word, and what follows it. -/
def readWord? : List Char → Option (Json × List Char)
  | 'n' :: 'u' :: 'l' :: 'l' :: rest => some (.null, rest)
  | 't' :: 'r' :: 'u' :: 'e' :: rest => some (.bool true, rest)
  | 'f' :: 'a' :: 'l' :: 's' :: 'e' :: rest => some (.bool false, rest)
  | 'N' :: 'a' :: 'N' :: rest => some (.float .nan, rest)
  | 'I' :: 'n' :: 'f' :: 'i' :: 'n' :: 'i' :: 't' :: 'y' :: rest =>
    some (.float (.infinity false), rest)
  | '-' :: 'I' :: 'n' :: 'f' :: 'i' :: 'n' :: 'i' :: 't' :: 'y' :: rest =>
    some (.float (.infinity true), rest)
  | _ => none

/-- Reads a value that is neither an array nor an object nor a string. -/
def readScalar (text : List Char) : Except Stop (Json × List Char) :=
  match readWord? text with
  | some found => .ok found
  | none =>
    match text with
    | '-' :: c :: rest =>
      if c.isDigit then readNumber true (c :: rest)
      else .error (.malformed .noValue text.length)
    | c :: rest =>
      if c.isDigit then readNumber false (c :: rest)
      else .error (.malformed .noValue text.length)
    | [] => .error (.malformed .noValue 0)

mutual

/-- Reads a value at the start of a text. Every nested call gets less fuel, and twice the length of
the text is enough for all of them; `depth` is how much deeper values may be nested. -/
def readValue : Nat → Nat → List Char → Except Stop (Json × List Char)
  | 0, _, text => .error (.malformed .noValue text.length)
  | fuel + 1, depth, text =>
    match text with
    | '"' :: rest => do
      let (string, rest) ← readString text.length ⟨[], none⟩ rest
      .ok (.str string, rest)
    | '[' :: rest =>
      match depth with
      | 0 => .error (.limit (.nesting .array))
      | depth + 1 =>
        match skip rest with
        | ']' :: rest => .ok (.arr [], rest)
        | rest => readItems fuel depth [] rest
    | '\x7b' :: rest =>
      match depth with
      | 0 => .error (.limit (.nesting .object))
      | depth + 1 =>
        match skip rest with
        | '\x7d' :: rest => .ok (.obj [], rest)
        | rest => readMembers fuel depth [] rest
    | text => readScalar text

/-- Reads the items of an array up to its closing bracket; those read so far come in reverse
order. -/
def readItems : Nat → Nat → List Json → List Char → Except Stop (Json × List Char)
  | 0, _, _, text => .error (.malformed .noValue text.length)
  | fuel + 1, depth, read, text => do
    let (item, rest) ← readValue fuel depth text
    match skip rest with
    | ']' :: rest => .ok (.arr (item :: read).reverse, rest)
    | ',' :: rest => readItems fuel depth (item :: read) (skip rest)
    | rest => .error (.malformed .noComma rest.length)

/-- Reads the members of an object up to its closing brace. -/
def readMembers : Nat → Nat → List (String × Json) → List Char → Except Stop (Json × List Char)
  | 0, _, _, text => .error (.malformed .noName text.length)
  | fuel + 1, depth, read, text =>
    match text with
    | '"' :: rest => do
      let (name, rest) ← readString text.length ⟨[], none⟩ rest
      match skip rest with
      | ':' :: rest =>
        let (value, rest) ← readValue fuel depth (skip rest)
        let read := (name, value) :: read
        match skip rest with
        | '\x7d' :: rest => .ok (.obj (Entries.ofPairs read.reverse), rest)
        | ',' :: rest => readMembers fuel depth read (skip rest)
        | rest => .error (.malformed .noComma rest.length)
      | rest => .error (.malformed .noColon rest.length)
    | text => .error (.malformed .noName text.length)

end

variable [Nesting]

/-- Reads a whole text. A byte order mark is no part of it. -/
def readAll (text : List Char) : Except Stop Json := do
  if text.head? == some '\uFEFF' then throw (.malformed .byteOrderMark text.length)
  let (value, rest) ← readValue (2 * text.length + 2) Nesting.reading (skip text)
  match skip rest with
  | [] => .ok value
  | rest => .error (.malformed .extra rest.length)

end Reader

variable [Nesting]

def read (text : List Char) : Except Fault Json :=
  match Reader.readAll text with
  | .ok value => .ok value
  | .error (.malformed cause left) => .error (.malformed cause (text.length - left))
  | .error (.limit limit) => .error (.limit limit)

/-- The text that bytes write, in the encoding that a byte order mark or the zeros among the first
four bytes show: UTF-32, UTF-16, or else UTF-8. -/
def decode? (bytes : List UInt8) : Option (List Char) :=
  let strict (chars : List (Option Char)) : Option (List Char) := chars.mapM id
  let utf16 (order : Text.ByteOrder) (bytes : List UInt8) :=
    strict (Text.readUtf16 .accepted order bytes)
  let utf32 (order : Text.ByteOrder) (bytes : List UInt8) :=
    strict (Text.readUnits32 .accepted order bytes)
  let utf8 (bytes : List UInt8) := Text.decodeUtf8? .accepted bytes
  match bytes with
  | 0x00 :: 0x00 :: 0xFE :: 0xFF :: rest => utf32 .big rest
  | 0xFF :: 0xFE :: 0x00 :: 0x00 :: rest => utf32 .little rest
  | 0xFE :: 0xFF :: rest => utf16 .big rest
  | 0xFF :: 0xFE :: rest => utf16 .little rest
  | 0xEF :: 0xBB :: 0xBF :: rest => utf8 rest
  | a :: b :: c :: d :: _ =>
    if a == 0 then (if b == 0 then utf32 .big bytes else utf16 .big bytes)
    else if b == 0 then
      (if c == 0 && d == 0 then utf32 .little bytes else utf16 .little bytes)
    else utf8 bytes
  | [a, b] =>
    if a == 0 then utf16 .big bytes else if b == 0 then utf16 .little bytes else utf8 bytes
  | _ => utf8 bytes

inductive BytesFault where
  /-- The bytes are no text. -/
  | notText
  | fault (fault : Fault)
deriving DecidableEq, Repr

def readBytes (bytes : List UInt8) : Except BytesFault Json :=
  match decode? bytes with
  | none => .error .notText
  | some text => (read text).mapError .fault

end MagnetStream.Json
