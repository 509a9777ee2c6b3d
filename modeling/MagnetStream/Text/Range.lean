/-!
# Ranges of code points

Properties of characters are kept as closed ranges of code points, in order.
-/

namespace MagnetStream.Text

def inRanges (ranges : List (Nat × Nat)) (c : Char) : Bool :=
  ranges.any fun (first, last) => first ≤ c.toNat && c.toNat ≤ last

/-- What is said of the first range in which a character lies. -/
def inRange? {α : Type} (ranges : List (Nat × Nat × α)) (c : Char) : Option α :=
  (ranges.find? fun (first, last, _) => first ≤ c.toNat && c.toNat ≤ last).map (·.2.2)

end MagnetStream.Text
