/-!
# Binary floating-point numbers of 64 bits

A number is kept by its exact value, `significand * 2 ^ exponent`, so that every operation can be
computed on natural numbers and reasoned about. A significand has at most 53 bits, an exponent is at
least -1074, and the significand uses all its bits unless the exponent is the least one. Results are
rounded to the nearest such number, a tie going to the even significand.
-/

namespace MagnetStream

/-- A floating-point number. -/
inductive Binary64 where
  | nan
  | infinity (negative : Bool)
  | finite (negative : Bool) (significand : Nat) (exponent : Int)
deriving DecidableEq, Repr

namespace Binary64

def minExponent : Int := -1074

def maxExponent : Int := 971

/-- How many bits a full significand has. -/
def precision : Nat := 53

def zero (negative : Bool) : Binary64 := .finite negative 0 minExponent

instance : Inhabited Binary64 := ⟨zero false⟩

/-- The whole number nearest to `num / den`, the even one of two that are equally near. -/
def roundHalfEven (num den : Nat) : Nat :=
  let low := num / den
  let twice := 2 * (num % den)
  if twice < den then low
  else if den < twice then low + 1
  else if low % 2 = 0 then low else low + 1

/-- `num / den` scaled by `2 ^ shift`, as a numerator and a denominator. -/
def scaled (num den : Nat) (shift : Int) : Nat × Nat :=
  if 0 ≤ shift then (num * Nat.pow 2 shift.toNat, den)
  else (num, den * Nat.pow 2 (-shift).toNat)

/-- The exponent `e` for which `2 ^ e ≤ num / den < 2 ^ (e + 1)`, both numbers being positive. -/
def floorLog2 (num den : Nat) : Int :=
  let guess : Int := (Nat.log2 num : Int) - Nat.log2 den
  let (n, d) := scaled num den (-guess)
  if n < d then guess - 1 else guess

/-- The number nearest to `num / den`. -/
def ofRatio (negative : Bool) (num den : Nat) : Binary64 :=
  if num = 0 then zero negative
  else
    let exponent := max (floorLog2 num den - (precision - 1 : Nat)) minExponent
    let (n, d) := scaled num den (-exponent)
    let significand := roundHalfEven n d
    let (significand, exponent) :=
      if significand = Nat.pow 2 precision then (Nat.pow 2 (precision - 1), exponent + 1)
      else (significand, exponent)
    if maxExponent < exponent then .infinity negative
    else .finite negative significand exponent

/-- The size of a finite number as a numerator and a denominator. -/
def ratio (significand : Nat) (exponent : Int) : Nat × Nat := scaled significand 1 exponent

/-- The number nearest to a whole number, absent when it is too large. -/
def ofInt? (n : Int) : Option Binary64 :=
  match ofRatio (n < 0) n.natAbs 1 with
  | .finite negative significand exponent => some (.finite negative significand exponent)
  | _ => none

/-- The number nearest to a small natural number. -/
def ofNat (n : Nat) : Binary64 := ofRatio false n 1

/-- The number nearest to `digits * 10 ^ exponent`. Exponents far out of range are cut off before
any power is computed. -/
def ofDecimal (negative : Bool) (digits : Nat) (exponent : Int) : Binary64 :=
  if digits = 0 then zero negative
  else
    let size : Int := (Nat.log2 digits : Int) + 1
    if 400 < exponent then .infinity negative
    else if exponent + size < -400 then zero negative
    else if 0 ≤ exponent then ofRatio negative (digits * Nat.pow 10 exponent.toNat) 1
    else ofRatio negative digits (Nat.pow 10 (-exponent).toNat)

/-- Whether a number is greater than zero; nothing that is not a number is. -/
def isPositive : Binary64 → Bool
  | .nan => false
  | .infinity negative => !negative
  | .finite negative significand _ => !negative && significand != 0

/-- Whether a number is zero of either sign. -/
def isZero : Binary64 → Bool
  | .finite _ significand _ => significand == 0
  | _ => false

/-- Whether a number is at most zero; nothing that is not a number is. -/
def atMostZero (x : Binary64) : Bool :=
  match x with
  | .nan => false
  | x => !x.isPositive

/-- Why a number has no whole part. -/
inductive WholeFault where
  | infinite
  | notANumber
deriving DecidableEq, Repr

/-- The whole part of a number, cut off toward zero. -/
def truncate : Binary64 → Except WholeFault Int
  | .nan => .error .notANumber
  | .infinity _ => .error .infinite
  | .finite negative significand exponent =>
    let (n, d) := ratio significand exponent
    let whole : Int := (n / d : Nat)
    .ok (if negative then -whole else whole)

/-- The whole number that a number equals, if it equals one. -/
def toInt? : Binary64 → Option Int
  | .finite negative significand exponent =>
    let (n, d) := ratio significand exponent
    if n % d = 0 then
      let whole : Int := (n / d : Nat)
      some (if negative then -whole else whole)
    else none
  | _ => none

/-- The part of a finite number behind the point, with the sign of the number. -/
def fraction : Binary64 → Binary64
  | .finite negative significand exponent =>
    let (n, d) := ratio significand exponent
    ofRatio negative (n % d) d
  | x => x

/-- The product of two numbers. -/
def mul : Binary64 → Binary64 → Binary64
  | .finite s m e, .finite s' m' e' =>
    let (n, d) := scaled (m * m') 1 (e + e')
    ofRatio (s != s') n d
  | .infinity s, .infinity s' => .infinity (s != s')
  | .infinity s, .finite s' m' _ => if m' = 0 then .nan else .infinity (s != s')
  | .finite s m _, .infinity s' => if m = 0 then .nan else .infinity (s != s')
  | _, _ => .nan

/-- The whole number nearest to a finite number, the even one of two that are equally near. -/
def round : Binary64 → Int
  | .finite negative significand exponent =>
    let (n, d) := ratio significand exponent
    let whole : Int := roundHalfEven n d
    if negative then -whole else whole
  | _ => 0

end Binary64
end MagnetStream
