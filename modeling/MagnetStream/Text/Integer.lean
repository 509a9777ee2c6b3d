import MagnetStream.Text.Blank
import MagnetStream.Text.Digit

/-!
# Whole numbers in text

A whole number may be written with blank space around it, a sign, digits of any script, and single
underscores between digits. More than 4300 digits are refused, since reading them takes too long.
-/

namespace MagnetStream.Text

/-- The most digits that a written whole number may have. -/
def maxDigits : Nat := 4300

/-- Why a text is not read as a whole number. -/
inductive IntegerFault where
  | malformed
  | tooLong (digits : Nat)
deriving DecidableEq, Repr

def appendDigit (number digit : Nat) : Nat := number * 10 + digit

/-- The number that a row of digits writes. -/
def ofDigits (digits : List Nat) : Nat := digits.foldl appendDigit 0

/-- The digits at the start of a text with single underscores between them, and what follows. The
result is `none` where an underscore is not followed by a digit. -/
def takeDigits? : List Char → Option (List Nat × List Char)
  | [] => some ([], [])
  | c :: rest =>
    match digitValue? c with
    | some d => (takeMore? rest).map fun (digits, after) => (d :: digits, after)
    | none => some ([], c :: rest)
where
  /-- What may follow a digit. -/
  takeMore? : List Char → Option (List Nat × List Char)
    | [] => some ([], [])
    | '_' :: c :: rest =>
      (digitValue? c).bind fun d => (takeMore? rest).map fun (digits, after) => (d :: digits, after)
    | c :: rest =>
      match digitValue? c with
      | some d => (takeMore? rest).map fun (digits, after) => (d :: digits, after)
      | none => if c == '_' then none else some ([], c :: rest)

/-- Blank space around a number; the information separators do not count. -/
def isNumberBlank (c : Char) : Bool := isBlank c && !(28 ≤ c.toNat && c.toNat ≤ 31)

/-- Reads digits without a sign. -/
def readNatural (text : List Char) : Except IntegerFault Nat :=
  match takeDigits? text with
  | none => .error .malformed
  | some (digits, rest) =>
    if digits.length > maxDigits then .error (.tooLong digits.length)
    else if digits.isEmpty || !rest.isEmpty then .error .malformed
    else .ok (ofDigits digits)

def readInteger (text : String) : Except IntegerFault Int :=
  match trimBy isNumberBlank text.toList with
  | '+' :: digits => (readNatural digits).map Int.ofNat
  | '-' :: digits => (readNatural digits).map fun n => -(n : Int)
  | digits => (readNatural digits).map Int.ofNat

/-- The report on a number with too many digits. -/
def tooLongMessage (digits : Nat) : String :=
  s!"Exceeds the limit ({maxDigits} digits) for integer string conversion: value has " ++
    s!"{digits} digits; use sys.set_int_max_str_digits() to increase the limit"

end MagnetStream.Text
