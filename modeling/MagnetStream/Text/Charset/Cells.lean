import MagnetStream.Text.Utf8

/-!
# Numbered characters

Large sets number their characters. A table is kept as runs of characters with consecutive numbers;
inside a run the mark for what cannot be read stands for a number without a character.
-/

namespace MagnetStream.Text.Charset

/-- A table of numbered characters, as runs from a number on. -/
abbrev Cells := List (Nat × Array Char)

namespace Cells

def ofLines (runs : List (Nat × List String)) : Cells :=
  runs.map fun (first, lines) => (first, (lines.flatMap String.toList).toArray)

def at? (cells : Cells) (n : Nat) : Option Char :=
  (cells.find? fun (first, chars) => first ≤ n && n < first + chars.size).bind
    fun (first, chars) => chars[n - first]?.filter (· != replacement)

/-- The characters from `first` on, `count` of them, that a table does not hold, in order. -/
def others (cells : Cells) (first count : Nat) : Array Char :=
  let held := cells.foldl (fun held (_, chars) => chars.foldl (fun held c =>
    if first ≤ c.toNat then held.setIfInBounds (c.toNat - first) true else held) held)
    (Array.replicate count false)
  ((List.range count).filter fun i => !(held.getD i false)).toArray.map fun i =>
    Char.ofNat (first + i)

end Cells
end MagnetStream.Text.Charset
