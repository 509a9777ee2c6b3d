import MagnetStream.Text.Utf8

/-!
# Reading UTF-16 and UTF-32

Units of two or four bytes in either byte order, with the same convention on faults as the reader of
UTF-8.
-/

namespace MagnetStream.Text

/-- Which end of a unit comes first. -/
inductive ByteOrder where
  | big
  | little
deriving DecidableEq

/-- The number that two bytes write. -/
def ByteOrder.pair (order : ByteOrder) (a b : UInt8) : Nat :=
  match order with
  | .big => a.toNat * 256 + b.toNat
  | .little => b.toNat * 256 + a.toNat

/-- The number that four bytes write. -/
def ByteOrder.quad (order : ByteOrder) (a b c d : UInt8) : Nat :=
  match order with
  | .big => order.pair a b * 65536 + order.pair c d
  | .little => order.pair c d * 65536 + order.pair a b

/-- Whether a unit is the first half of a character written as two units. -/
def isHighSurrogate (unit : Nat) : Bool := 0xD800 ≤ unit && unit < 0xDC00

/-- Whether a unit is the second half of a character written as two units. -/
def isLowSurrogate (unit : Nat) : Bool := 0xDC00 ≤ unit && unit < 0xE000

/-- The code point of two halves. -/
def joinSurrogates (high low : Nat) : Nat := 0x10000 + (high - 0xD800) * 1024 + (low - 0xDC00)

/-- The units of two bytes; a single byte at the end is `none`. -/
def units16 (order : ByteOrder) : List UInt8 → List (Option Nat)
  | [] => []
  | [_] => [none]
  | a :: b :: rest => some (order.pair a b) :: units16 order rest

/-- Reads units of two bytes. A half without its partner is a fault, or the mark when surrogates are
accepted. -/
def readUnits16 (surrogates : Utf8.Surrogates) : List (Option Nat) → List (Option Char)
  | [] => []
  | none :: rest => none :: readUnits16 surrogates rest
  | some unit :: rest =>
    if isHighSurrogate unit then
      match rest with
      | some next :: after =>
        if isLowSurrogate next then
          some (charOfCode (joinSurrogates unit next)) :: readUnits16 surrogates after
        else lone :: readUnits16 surrogates (some next :: after)
      | _ => [none]
    else if isLowSurrogate unit then lone :: readUnits16 surrogates rest
    else some (charOfCode unit) :: readUnits16 surrogates rest
where
  lone : Option Char := if surrogates = .accepted then some replacement else none

/-- Reads characters of four bytes. -/
def readUnits32 (surrogates : Utf8.Surrogates) (order : ByteOrder) :
    List UInt8 → List (Option Char)
  | a :: b :: c :: d :: rest =>
    let code := order.quad a b c d
    let char :=
      if code.isValidChar then some (Char.ofNat code)
      else if code < 0x110000 ∧ surrogates = .accepted then some replacement
      else none
    char :: readUnits32 surrogates order rest
  | [] => []
  | _ => [none]

def readUtf16 (surrogates : Utf8.Surrogates) (order : ByteOrder) (bytes : List UInt8) :
    List (Option Char) :=
  readUnits16 surrogates (units16 order bytes)

end MagnetStream.Text
