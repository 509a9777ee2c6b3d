/-!
# Faults of compressed data

What can be wrong with compressed data, from its header to the checks at its end.
-/

namespace MagnetStream.Http.Coding

inductive DataFault where
  | header
  | method
  | flags
  | headerCheck
  | window
  | dictionary
  | blockType
  | storedLength
  | tooManySymbols
  | lengthCode
  | repeatedLength
  | noEndOfBlock
  | literalCode
  | distanceCode
  | literal
  | distance
  | tooFarBack
  | dataCheck
  | sizeCheck
deriving DecidableEq, Repr

namespace DataFault

def reason : DataFault → String
  | header => "incorrect header check"
  | method => "unknown compression method"
  | flags => "unknown header flags set"
  | headerCheck => "header crc mismatch"
  | window => "invalid window size"
  | dictionary => "need dictionary"
  | blockType => "invalid block type"
  | storedLength => "invalid stored block lengths"
  | tooManySymbols => "too many length or distance symbols"
  | lengthCode => "invalid code lengths set"
  | repeatedLength => "invalid bit length repeat"
  | noEndOfBlock => "invalid code -- missing end-of-block"
  | literalCode => "invalid literal/lengths set"
  | distanceCode => "invalid distances set"
  | literal => "invalid literal/length code"
  | distance => "invalid distance code"
  | tooFarBack => "invalid distance too far back"
  | dataCheck => "incorrect data check"
  | sizeCheck => "incorrect length check"

/-- The report on compressed data. -/
def message (fault : DataFault) : String :=
  "Error -3 while decompressing data: " ++ fault.reason

end DataFault
end MagnetStream.Http.Coding
