import MagnetStream.Http.Coding.Blocks
import MagnetStream.Http.Header

/-!
# Codings of content

The body of a response may be compressed, once or several times over, as its headers tell. Around
the compressed data stands one of two wrappings, each with a header in front and a check behind;
some servers leave the wrapping out. Codings that are not known change nothing.
-/

namespace MagnetStream.Http

inductive Coding where
  | gzip
  | deflate
deriving DecidableEq, Repr

namespace Coding

def checkBit (remainder : UInt32) : UInt32 :=
  if remainder &&& 1 == 1 then (remainder >>> 1) ^^^ 0xEDB88320 else remainder >>> 1

/-- The check of a file: the remainder of its bits under a fixed divisor. -/
def fileCheck (bytes : List UInt8) : Nat :=
  let remainder := bytes.foldl (fun remainder byte =>
    (List.range 8).foldl (fun remainder _ => checkBit remainder)
      (remainder ^^^ UInt32.ofNat byte.toNat)) 0xFFFFFFFF
  (remainder ^^^ 0xFFFFFFFF).toNat

/-- The check of a stream: the sum of its bytes, and the sum of all sums on the way. -/
def streamCheck (bytes : List UInt8) : Nat :=
  let (low, high) := bytes.foldl (fun (low, high) byte =>
    let low := (low + byte.toNat) % 65521
    (low, (high + low) % 65521)) (1, 0)
  high * 65536 + low

def putOut : Reading (List UInt8) := do
  return (← get).output.toList

/-- Reads a stream: method and window, the data, and the check of the stream, its high byte
first. -/
def readStream : Reading Unit := do
  let first ← readNumber 8
  let second ← readNumber 8
  refuse .header ((first * 256 + second) % 31 != 0)
  refuse .method (first % 16 != 8)
  refuse .window (7 < first / 16)
  if second / 32 % 2 == 1 then
    let _ ← readNumber 32
    throw (.faulty .dictionary)
  readData
  skipToByte
  let mark ← readNumber 32
  let check := mark % 256 * 16777216 + mark / 256 % 256 * 65536 + mark / 65536 % 256 * 256 +
    mark / 16777216
  refuse .dataCheck (check != streamCheck (← putOut))

/-- Skips bytes up to the first zero. -/
def skipName : Nat → Reading Unit
  | 0 => throw .cut
  | fuel + 1 => do
    if (← readNumber 8) == 0 then return () else skipName fuel

def skipBytes : Nat → Reading Unit
  | 0 => pure ()
  | count + 1 => do
    let _ ← readNumber 8
    skipBytes count

/-- Reads the header of a file. Its flags tell which parts it has. -/
def readFileHeader (bytes : List UInt8) : Reading Unit := do
  refuse .header ((← readNumber 16) != 0x8B1F)
  let both ← readNumber 16
  refuse .method (both % 256 != 8)
  let flags := both / 256
  refuse .flags (32 ≤ flags)
  skipBytes 6
  if flags.testBit 2 then skipBytes (← readNumber 16)
  if flags.testBit 3 then skipName (bytes.length + 1)
  if flags.testBit 4 then skipName (bytes.length + 1)
  if flags.testBit 1 then
    let front := bytes.take (bytes.length - (← get).bits.length / 8)
    refuse .headerCheck ((← readNumber 16) != fileCheck front % 65536)

/-- Reads a file: its header, the data, the check of the file and its size. -/
def readFile (bytes : List UInt8) : Reading Unit := do
  readFileHeader bytes
  readData
  skipToByte
  let output ← putOut
  refuse .dataCheck ((← readNumber 32) != fileCheck output)
  refuse .sizeCheck ((← readNumber 32) != output.length % 4294967296)

/-- What a reading puts out of bytes. -/
def run (reading : Reading Unit) (bytes : List UInt8) : Except DataFault (List UInt8) :=
  match reading.run ⟨bitsOf bytes, #[]⟩ with
  | (.error (.faulty fault), _) => .error fault
  | (_, passage) => .ok passage.output.toList

/-- Undoes a coding. Where the wrapping is left out, the data are taken as they are. -/
def decode (bytes : List UInt8) : Coding → Except DataFault (List UInt8)
  | gzip => run (readFile bytes) bytes
  | deflate =>
    match run readStream bytes with
    | .ok output => .ok output
    | .error _ => run readData bytes

def ofWord? (word : List Char) : Option Coding :=
  match String.ofList (Text.lower word) with
  | "gzip" => some gzip
  | "deflate" => some deflate
  | _ => none

/-- The known codings that headers tell, in the order in which they were applied. -/
def inHeaders (headers : List (String × String)) : List Coding :=
  headers.flatMap fun (name, value) =>
    if Text.lower name.toList == "content-encoding".toList then
      (Text.splitOnChar ',' value.toList).filterMap fun word =>
        ofWord? (Text.trimBy Text.isBlank word)
    else []

/-- Undoes all codings that headers tell, the last one first. -/
def decodeAll (headers : List (String × String)) (body : List UInt8) :
    Except DataFault (List UInt8) :=
  (inHeaders headers).reverse.foldlM decode body

end Coding
end MagnetStream.Http
