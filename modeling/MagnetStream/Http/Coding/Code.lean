import MagnetStream.Http.Coding.Bits

/-!
# Prefix codes

A prefix code is told by the number of bits of every symbol, zero for one that does not occur.
Symbols with fewer bits come first, and symbols with as many bits in their own order; so the codes
are counted through.
-/

namespace MagnetStream.Http.Coding

/-- A prefix code: how many symbols have one bit, two bits, and so on, and the symbols in the order
of their codes. -/
structure Code where
  counts : List Nat
  symbols : Array Nat

namespace Code

/-- The most bits of a symbol. -/
def maxLength : Nat := 15

/-- The code in which every symbol has a given number of bits. -/
def ofLengths (lengths : List Nat) : Code :=
  let used := lengths.zipIdx.filter (·.1 != 0)
  { counts := (List.range maxLength).map fun length => used.countP (·.1 == length + 1)
    symbols := ((used.mergeSort fun a b => a.1 ≤ b.1).map Prod.snd).toArray }

/-- How many codes are free once all symbols have theirs, if there are enough for them. -/
def free? (code : Code) : Option Nat :=
  code.counts.foldlM (fun free count => if 2 * free < count then none else some (2 * free - count))
    1

def isEmpty (code : Code) : Bool := code.symbols.isEmpty

/-- Whether every row of bits leads to a symbol. A code without any symbol may stand as well. -/
def isComplete (code : Code) : Bool := code.isEmpty || code.free? == some 0

/-- Whether a code is complete, or has symbols of one bit only. -/
def isUsable (code : Code) : Bool :=
  code.isComplete || (code.free?.isSome && (code.counts.drop 1).all (· == 0))

/-- Where bits lead in a code. -/
inductive Landing where
  | cut
  | symbol (symbol : Nat) (rest : List Bool)
  /-- The bits lead to no symbol, whatever follows. -/
  | nowhere (rest : List Bool)

/-- Follows bits through the lengths that are left: the code so far, the first code of its length,
and how many symbols have shorter codes. -/
def follow (symbols : Array Nat) (code first shorter : Nat) :
    List Nat → List Bool → Landing
  | [], bits => .nowhere bits
  | _ :: _, [] => .cut
  | count :: counts, bit :: bits =>
    let code := 2 * code + bit.toNat
    if code < first + count then .symbol (symbols.getD (shorter + (code - first)) 0) bits
    else if counts.all (· == 0) then .nowhere bits
    else follow symbols code (2 * (first + count)) (shorter + count) counts bits

/-- Reads a symbol, or none if the bits lead nowhere. -/
def read? (code : Code) : Reading (Option Nat) := do
  let passage ← get
  match follow code.symbols 0 0 0 code.counts passage.bits with
  | .cut => throw .cut
  | .symbol symbol bits =>
    set { passage with bits }
    return some symbol
  | .nowhere bits =>
    set { passage with bits }
    return none

end Code
end MagnetStream.Http.Coding
