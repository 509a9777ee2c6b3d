import MagnetStream.Http.Coding.Code

/-!
# Blocks of compressed data

Compressed data come in blocks. A block holds bytes as they are, or symbols of two prefix codes,
which are fixed or told in front of the block: a literal, the length of a row that repeats, or the
end of the block; and behind a length, the distance at which the row was put out before.
-/

namespace MagnetStream.Http.Coding

/-- The shortest length or distance that each of some symbols stands for, and how many bits tell the
rest. Each item gives the number of bits and how many symbols have as many. -/
def spans (least : Nat) : List (Nat × Nat) → List (Nat × Nat)
  | [] => []
  | (bits, count) :: rest =>
    (List.range count).map (fun n => (least + n * 1 <<< bits, bits)) ++
      spans (least + count * 1 <<< bits) rest

/-- What the symbols behind the end of a block stand for. -/
def lengthSpans : List (Nat × Nat) :=
  spans 3 [(0, 8), (1, 4), (2, 4), (3, 4), (4, 4), (5, 3)] ++ [(227, 5), (258, 0)]

/-- What the symbols of distances stand for. -/
def distanceSpans : List (Nat × Nat) :=
  spans 1 ((0, 4) :: (List.range 13).map fun n => (n + 1, 2))

def endOfBlock : Nat := 256

def fixedLiterals : Code :=
  .ofLengths (List.replicate 144 8 ++ List.replicate 112 9 ++ List.replicate 24 7 ++
    List.replicate 8 8)

def fixedDistances : Code := .ofLengths (List.replicate 32 5)

/-- Reads what a symbol stands for, if it stands for anything. -/
def readSpan (fault : DataFault) (meanings : List (Nat × Nat)) (symbol : Option Nat) :
    Reading Nat := do
  match symbol.bind fun symbol => meanings[symbol]? with
  | none => throw (.faulty fault)
  | some (least, bits) => return least + (← readNumber bits)

/-- Reads symbols up to the end of the block. Every symbol takes a bit. -/
def readSymbols (literals distances : Code) : Nat → Reading Unit
  | 0 => throw .cut
  | fuel + 1 => do
    match ← literals.read? with
    | none => throw (.faulty .literal)
    | some symbol =>
      if symbol < endOfBlock then
        putByte (UInt8.ofNat symbol)
        readSymbols literals distances fuel
      else if symbol == endOfBlock then return ()
      else
        let length ← readSpan .literal lengthSpans (some (symbol - endOfBlock - 1))
        let distance ← readSpan .distance distanceSpans (← distances.read?)
        putRepeated distance length
        readSymbols literals distances fuel

def readCoded (literals distances : Code) : Reading Unit := do
  readSymbols literals distances ((← get).bits.length + 1)

/-- Reads a block of bytes that stand as they are. Their number comes twice, the second time with
every bit turned. -/
def readStored : Reading Unit := do
  skipToByte
  let both ← readNumber 32
  let count := both % 65536
  refuse .storedLength (count + both / 65536 != 65535)
  putStored count

/-- Which symbols of the code for lengths have their number of bits told, in this order. -/
def lengthOrder : List Nat := [16, 17, 18, 0, 8, 7, 9, 6, 10, 5, 11, 4, 12, 3, 13, 2, 14, 1, 15]

/-- Reads some numbers of three bits. -/
def readShort : Nat → Reading (List Nat)
  | 0 => pure []
  | count + 1 => do
    let first ← readNumber 3
    return first :: (← readShort count)

/-- How a symbol goes on that repeats a length: with how many bits, and how often at least. -/
def repetition? : Nat → Option (Nat × Nat)
  | 16 => some (2, 3)
  | 17 => some (3, 3)
  | 18 => some (7, 11)
  | _ => none

/-- Reads lengths until a number of them is there; they are in reverse. Every symbol brings one at
least. -/
def readLengths (code : Code) (wanted : Nat) : Nat → List Nat → Reading (List Nat)
  | 0, lengths => pure lengths
  | fuel + 1, lengths => do
    if wanted ≤ lengths.length then return lengths
    let symbol := (← code.read?).getD 0
    match repetition? symbol with
    | none => readLengths code wanted fuel (symbol :: lengths)
    | some (bits, least) =>
      let more ← readNumber bits
      let value := if symbol == 16 then lengths.head? else some 0
      match value with
      | none => throw (.faulty .repeatedLength)
      | some value =>
        refuse .repeatedLength (wanted < lengths.length + least + more)
        readLengths code wanted fuel (List.replicate (least + more) value ++ lengths)

/-- Reads the codes that a block tells, and then its symbols. -/
def readDynamic : Reading Unit := do
  let literals := (← readNumber 5) + 257
  let distances := (← readNumber 5) + 1
  let short := (← readNumber 4) + 4
  refuse .tooManySymbols (286 < literals || 30 < distances)
  let told := lengthOrder.zip (← readShort short)
  let code := Code.ofLengths ((List.range 19).map fun symbol => (told.lookup symbol).getD 0)
  refuse .lengthCode (!code.isComplete)
  let wanted := literals + distances
  let lengths := (← readLengths code wanted wanted []).reverse
  refuse .noEndOfBlock (lengths.getD endOfBlock 0 == 0)
  let literalCode := Code.ofLengths (lengths.take literals)
  refuse .literalCode (!literalCode.isUsable)
  let distanceCode := Code.ofLengths (lengths.drop literals)
  refuse .distanceCode (!distanceCode.isUsable)
  readCoded literalCode distanceCode

/-- Reads blocks up to the last one. Every block takes a bit. -/
def readBlocks : Nat → Reading Unit
  | 0 => throw .cut
  | fuel + 1 => do
    let head ← readNumber 3
    match head / 2 with
    | 0 => readStored
    | 1 => readCoded fixedLiterals fixedDistances
    | 2 => readDynamic
    | _ => throw (.faulty .blockType)
    if head % 2 == 1 then return () else readBlocks fuel

def readData : Reading Unit := do
  readBlocks ((← get).bits.length + 1)

end MagnetStream.Http.Coding
