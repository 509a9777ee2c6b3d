import MagnetStream.Http.Coding.Fault

/-!
# Reading bits

Compressed data are a row of bits, those of each byte from the lowest up. They are read from the
front while bytes are put out. Where the bits come to an end, the reading stops without a fault, and
what was put out stays.
-/

namespace MagnetStream.Http.Coding

def bitsOf (bytes : List UInt8) : List Bool :=
  bytes.flatMap fun byte => (List.range 8).map byte.toNat.testBit

/-- Takes some bits off as a number, the lowest first, if they are there. -/
def takeNumber? : Nat → List Bool → Option (Nat × List Bool)
  | 0, bits => some (0, bits)
  | _ + 1, [] => none
  | count + 1, bit :: bits =>
    (takeNumber? count bits).map fun (number, rest) => (bit.toNat + 2 * number, rest)

/-- Why a reading stops: the bits are at their end, or there is something wrong with them. -/
inductive Stop where
  | cut
  | faulty (fault : DataFault)
deriving DecidableEq, Repr

/-- The bits that are left, and what was put out so far. -/
structure Passage where
  bits : List Bool
  output : Array UInt8

abbrev Reading (α : Type) := ExceptT Stop (StateM Passage) α

/-- Stops at a fault, if there is one. -/
def refuse (fault : DataFault) (isFaulty : Bool) : Reading Unit :=
  if isFaulty then throw (.faulty fault) else pure ()

def readNumber (count : Nat) : Reading Nat := do
  let passage ← get
  match takeNumber? count passage.bits with
  | none => throw .cut
  | some (number, bits) =>
    set { passage with bits }
    return number

def skipToByte : Reading Unit :=
  modify fun passage => { passage with bits := passage.bits.drop (passage.bits.length % 8) }

def putByte (byte : UInt8) : Reading Unit :=
  modify fun passage => { passage with output := passage.output.push byte }

/-- Puts some bytes out that stand as they are. -/
def putStored : Nat → Reading Unit
  | 0 => pure ()
  | count + 1 => do
    putByte (UInt8.ofNat (← readNumber 8))
    putStored count

/-- Repeats what was put out at a distance, byte by byte. -/
def repeated (distance : Nat) : Nat → Array UInt8 → Array UInt8
  | 0, output => output
  | count + 1, output =>
    repeated distance count (output.push (output.getD (output.size - distance) 0))

/-- Puts bytes out again that were put out at a distance. -/
def putRepeated (distance count : Nat) : Reading Unit := do
  refuse .tooFarBack ((← get).output.size < distance)
  modify fun passage => { passage with output := repeated distance count passage.output }

end MagnetStream.Http.Coding
