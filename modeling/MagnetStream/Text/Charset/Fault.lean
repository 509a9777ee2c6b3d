/-!
# Faults of character sets

The reasons why nothing at all is read in a character set.
-/

namespace MagnetStream.Text

/-- Why nothing is read in a character set. -/
inductive CharsetFault where
  /-- Units of some bits without a mark in front that tells their order. -/
  | unmarked (bits : Nat)
  | undefined
  /-- The set is only for texts without faults. -/
  | strictOnly
  /-- The set turns letters into letters. -/
  | lettersOnly
  /-- The set does not write text. -/
  | noText
  /-- Too many bytes wait for the rest of an escape. -/
  | overflow
deriving DecidableEq, Repr

/-- The report on a character set in which nothing is read. -/
def CharsetFault.message : CharsetFault → String
  | unmarked bits => "UTF-" ++ toString bits ++ " stream does not start with BOM"
  | undefined => "undefined encoding"
  | strictOnly => "Unsupported error handling replace"
  | lettersOnly => "descriptor 'translate' for 'str' objects doesn't apply to a 'bytes' object"
  | noText => ""
  | overflow => "pending buffer overflow"

end MagnetStream.Text
