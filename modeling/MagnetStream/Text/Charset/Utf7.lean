import MagnetStream.Text.Base64
import MagnetStream.Text.WideUnits

/-!
# Reading UTF-7

A plus sign starts a stretch of units of 16 bits in the digits of base 64, six bits each. The
stretch ends with the first character that is no such digit, and a minus there does not count. What
is left of a unit at the end has to be fewer than six zeros. Everything else stands for itself.
-/

namespace MagnetStream.Text.Charset

/-- A stretch in digits: how many bits are left over from the units so far, their value, and the
first half of a character whose second half is to come. -/
structure Stretch where
  bits : Nat
  value : Nat
  half : Option Nat

def digit64? (byte : UInt8) : Option Nat :=
  (List.range 64).find? fun n => (base64Digit n).toNat == byte.toNat

/-- What a unit adds to a text, given the half in front of it, and the half that it is. -/
def joinUnit (half : Option Nat) (unit : Nat) : List Char × Option Nat :=
  match half with
  | some high =>
    if isLowSurrogate unit then ([charOfCode (joinSurrogates high unit)], none)
    else
      let (chars, half) := alone
      (replacement :: chars, half)
  | none => alone
where
  alone : List Char × Option Nat :=
    if isHighSurrogate unit then ([], some unit) else ([charOfCode unit], none)

def Stretch.push (stretch : Stretch) (digit : Nat) : List Char × Stretch :=
  let bits := stretch.bits + 6
  let value := stretch.value * 64 + digit
  if 16 ≤ bits then
    let left := Nat.pow 2 (bits - 16)
    let (chars, half) := joinUnit stretch.half (value / left)
    (chars, ⟨bits - 16, value % left, half⟩)
  else ([], ⟨bits, value, stretch.half⟩)

/-- Whether a stretch cannot end here. -/
def Stretch.isBroken (stretch : Stretch) : Bool :=
  6 ≤ stretch.bits || (0 < stretch.bits && stretch.value != 0)

/-- A character outside a stretch: what it adds to the text, whether it starts a stretch, and how
many of the bytes behind it belong to it. -/
def outside (byte : UInt8) (rest : List UInt8) : List Char × Option Stretch × Nat :=
  if byte.toNat == '+'.toNat then
    match rest with
    | [] => ([], some ⟨0, 0, none⟩, 0)
    | next :: _ =>
      if next.toNat == '-'.toNat then (['+'], none, 1)
      else if (digit64? next).isNone then ([replacement], none, 1)
      else ([], some ⟨0, 0, none⟩, 0)
  else if byte < 128 then ([Char.ofNat byte.toNat], none, 0)
  else ([replacement], none, 0)

def behind (stretch : Stretch) (byte : UInt8) (rest : List UInt8) :
    List Char × Option Stretch × Nat :=
  if stretch.isBroken then ([replacement], none, 0)
  else
    let lost := if stretch.half.isSome && byte < 128 && byte.toNat != '+'.toNat then [replacement]
      else []
    if byte.toNat == '-'.toNat then (lost, none, 0)
    else
      let (chars, next, length) := outside byte rest
      (lost ++ chars, next, length)

/-- Reads UTF-7 inside or outside a stretch, with the mark for every fault. -/
def readUtf7 (stretch : Option Stretch) : List UInt8 → List Char
  | [] =>
    if stretch.any fun stretch => stretch.isBroken || stretch.half.isSome then [replacement] else []
  | byte :: rest =>
    let (chars, next, length) :=
      match stretch, digit64? byte with
      | some stretch, some digit =>
        let (chars, stretch) := stretch.push digit
        (chars, some stretch, 0)
      | some stretch, none => behind stretch byte rest
      | none, _ => outside byte rest
    chars ++ readUtf7 next (rest.drop length)
termination_by bytes => bytes.length
decreasing_by simp only [List.length_cons, List.length_drop]; omega

end MagnetStream.Text.Charset
