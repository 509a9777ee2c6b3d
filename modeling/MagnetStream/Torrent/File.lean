import MagnetStream.Json.Basic
import MagnetStream.Text.Integer

/-!
# Files of a torrent

The file to fetch is the largest one, the first of several that are equally large. A listing is read
leniently: what is no object is skipped, and what is no number counts as zero.
-/

namespace MagnetStream

/-- The whole number in a numeric member: floating-point numbers are cut off, texts are read, and
everything else is zero. -/
def Json.toWhole : Json → Except Binary64.WholeFault Int
  | .int n => .ok n
  | .float x => x.truncate
  | .str text => .ok ((Text.readInteger text).toOption.getD 0)
  | _ => .ok 0

namespace Torrent

structure File where
  id : Int
  size : Int
deriving DecidableEq, Repr

/-- The file that one entry of a listing describes, if it is an object. -/
def File.ofEntry? : Json → Except Binary64.WholeFault (Option File)
  | .obj members => do
    let id ← ((Entries.get? members "id").getD .null).toWhole
    let size ← ((Entries.get? members "bytes").getD .null).toWhole
    .ok (some ⟨id, size⟩)
  | _ => .ok none

def File.ofListing : Json → Except Binary64.WholeFault (List File)
  | .arr entries => do
    let files ← entries.mapM File.ofEntry?
    .ok (files.filterMap fun file => file)
  | _ => .ok []

inductive SelectionFault where
  | emptyListing
  | noFileId
deriving DecidableEq, Repr

/-- The report on a listing without a file to choose. -/
def SelectionFault.message : SelectionFault → String
  | .emptyListing => "Empty list of files"
  | .noFileId => "No file ID found"

/-- Goes through files with the pick so far; only a strictly larger file replaces it. -/
def pickLargest (pick : File) : List File → File
  | [] => pick
  | file :: rest => pickLargest (if pick.size < file.size then file else pick) rest

/-- The id of the file to fetch. A pick needs a positive size and a positive id. -/
def selectFile (files : List File) : Except SelectionFault Int :=
  if files.isEmpty then .error .emptyListing
  else
    let pick := pickLargest ⟨0, 0⟩ files
    if pick.id ≤ 0 then .error .noFileId else .ok pick.id

end Torrent
end MagnetStream
