import MagnetStream.Binary64.Basic
import MagnetStream.Text.Digit

/-!
# Floating-point numbers in decimal text

Two ways of writing: the fewest digits that read back as the same number, and six significant
digits. One way of reading: an optional sign, digits with an optional point, and an optional power
of ten, rounded to the nearest number.
-/

namespace MagnetStream.Binary64

/-- Digits with the place of the point: `digits * 10 ^ (point - length)`, where the first digit is
not zero. -/
structure Decimal where
  digits : List Char
  point : Int

/-- How many decimal digits a positive number has before the point; zero or less for a number
below one, whose first digit stands that many places behind the point. -/
def pointOf (num den : Nat) : Int :=
  if den ≤ num then (Nat.toDigits 10 (num / den)).length
  else
    let places := (Nat.toDigits 10 (den / num)).length
    if num * Nat.pow 10 (places - 1) = den then 2 - (places : Int) else 1 - (places : Int)

/-- `num / den` scaled by `10 ^ places`, as a numerator and a denominator. -/
def tenfold (num den : Nat) (places : Int) : Nat × Nat :=
  if 0 ≤ places then (num * Nat.pow 10 places.toNat, den)
  else (num, den * Nat.pow 10 (-places).toNat)

/-- The numbers that round to `significand * 2 ^ exponent` lie around it, in units of a quarter of
its last bit: this is the distance downward and upward. Both ends belong to it exactly when the
significand is even. -/
def reach (significand : Nat) (exponent : Int) : Nat × Nat :=
  if significand = Nat.pow 2 (precision - 1) ∧ minExponent < exponent then (1, 2) else (2, 2)

/-- Whether the decimal `digits * 10 ^ (-places)` rounds to `significand * 2 ^ exponent`. -/
def readsBack (significand : Nat) (exponent : Int) (digits : Nat) (places : Int) : Bool :=
  let (down, up) := reach significand exponent
  let (low, unit) := scaled (4 * significand - down) 4 exponent
  let (high, unit') := scaled (4 * significand + up) 4 exponent
  let (num, den) := tenfold digits 1 (-places)
  if significand % 2 = 0 then low * den ≤ num * unit && num * unit' ≤ high * den
  else low * den < num * unit && num * unit' < high * den

/-- The decimal of `count` digits that reads back and lies nearest, if there is one. -/
def nearestOn? (significand : Nat) (exponent : Int) (point : Int) (count : Nat) : Option Nat :=
  let places : Int := count - point
  let (value, unit) := ratio significand exponent
  let (num, den) := tenfold value unit places
  let low := num / den
  let lowFits := readsBack significand exponent low places && low != 0
  let highFits := readsBack significand exponent (low + 1) places
  if lowFits && highFits then some (roundHalfEven num den)
  else if lowFits then some low
  else if highFits then some (low + 1)
  else none

/-- The digits of `n` without the zeros at their end. -/
def significantDigits (n : Nat) : List Char :=
  ((Nat.toDigits 10 n).reverse.dropWhile (· == '0')).reverse

/-- The fewest digits that read back as `significand * 2 ^ exponent`; seventeen always do. -/
def shortest (significand : Nat) (exponent : Int) : Decimal :=
  let (num, den) := ratio significand exponent
  let point := pointOf num den
  let found := (List.range 17).findSome? fun k =>
    (nearestOn? significand exponent point (k + 1)).map fun n => (n, k + 1)
  match found with
  | some (n, count) =>
    ⟨significantDigits n, point + ((Nat.toDigits 10 n).length - count : Int)⟩
  | none => ⟨['0'], 1⟩

/-- At most `count` significant digits, rounded from the exact value. -/
def rounded (count : Nat) (significand : Nat) (exponent : Int) : Decimal :=
  let (num, den) := ratio significand exponent
  let point := pointOf num den
  let (num, den) := tenfold num den (count - point)
  let n := roundHalfEven num den
  ⟨significantDigits n, point + ((Nat.toDigits 10 n).length - count : Int)⟩

/-- Digits with the point written among them, `places` counting the digits before it. -/
def positional (digits : List Char) (places : Int) (keepPoint : Bool) : String :=
  let zeros (n : Int) := List.replicate n.toNat '0'
  if places ≤ 0 then String.ofList (['0', '.'] ++ zeros (-places) ++ digits)
  else
    let whole := digits.take places.toNat ++ zeros (places - digits.length)
    match digits.drop places.toNat with
    | [] => String.ofList (if keepPoint then whole ++ ['.', '0'] else whole)
    | behind => String.ofList (whole ++ '.' :: behind)

/-- Digits in scientific form; the power of ten has a sign and at least two digits. -/
def scientific (digits : List Char) (power : Int) : String :=
  let mantissa := match digits with
    | first :: second :: rest => first :: '.' :: second :: rest
    | few => few
  let size := toString power.natAbs
  String.ofList mantissa ++ "e" ++ (if power < 0 then "-" else "+") ++
    (if power.natAbs < 10 then "0" ++ size else size)

/-- When a number is written positionally and how. -/
structure Layout where
  /-- The least power of ten of the first digit that is written positionally. -/
  leastPower : Int
  /-- The first power of ten that is too large to be written positionally. -/
  tooLarge : Int
  /-- Whether a whole number keeps a point and a zero. -/
  keepPoint : Bool

def Layout.write (layout : Layout) (decimal : Decimal) : String :=
  let power := decimal.point - 1
  if layout.leastPower ≤ power ∧ power < layout.tooLarge then
    positional decimal.digits decimal.point layout.keepPoint
  else scientific decimal.digits power

/-- Shortest texts are positional from 0.0001 to below 10 to the 16 and show that they are not whole
numbers. -/
def fullLayout : Layout := ⟨-4, 16, true⟩

/-- Six-digit texts are positional from 0.0001 to below a million. -/
def sixDigitLayout : Layout := ⟨-4, 6, false⟩

def signText (negative : Bool) : String := if negative then "-" else ""

/-- The fewest digits that read back as the same number. -/
def toText : Binary64 → String
  | .nan => "nan"
  | .infinity negative => signText negative ++ "inf"
  | .finite negative significand exponent =>
    signText negative ++
      if significand = 0 then "0.0" else fullLayout.write (shortest significand exponent)

/-- Six significant digits without final zeros. -/
def toSixDigits : Binary64 → String
  | .nan => "nan"
  | .infinity negative => signText negative ++ "inf"
  | .finite negative significand exponent =>
    signText negative ++
      if significand = 0 then "0" else sixDigitLayout.write (rounded 6 significand exponent)

/-- The digits 0 to 9 at the start of a text, and what follows. -/
def spanDigits (text : List Char) : List Char × List Char := text.span Char.isDigit

/-- The number that a row of the digits 0 to 9 writes. -/
def natOfDigits (digits : List Char) : Nat :=
  digits.foldl (fun n c => n * 10 + (c.toNat - 48)) 0

/-- A power of ten behind an `e`, in either case: an optional sign and at least one digit. -/
def readPower? : List Char → Option Int
  | [] => some 0
  | e :: rest =>
    if e == 'e' || e == 'E' then
      let (negative, digits) := match rest with
        | '-' :: digits => (true, digits)
        | '+' :: digits => (false, digits)
        | digits => (false, digits)
      if digits.isEmpty || !digits.all Char.isDigit then none
      else some (if negative then -(natOfDigits digits : Int) else natOfDigits digits)
    else none

/-- Reads digits with an optional point, at least one digit in all, and an optional power. -/
def readUnsigned? (negative : Bool) (text : List Char) : Option Binary64 :=
  let (whole, rest) := spanDigits text
  let (behind, rest) := match rest with
    | '.' :: after => spanDigits after
    | other => ([], other)
  if whole.isEmpty && behind.isEmpty then none
  else (readPower? rest).map fun power =>
    ofDecimal negative (natOfDigits (whole ++ behind)) (power - behind.length)

end MagnetStream.Binary64
