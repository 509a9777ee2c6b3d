import MagnetStream.Json.Basic

/-!
# Torrent states

The states that the service reports for a torrent. Whatever it may report in the future counts as
unrecognized, and so as still in progress.
-/

namespace MagnetStream.Torrent

inductive Status where
  | magnetError
  | magnetConversion
  | waitingFilesSelection
  | queued
  | downloading
  | downloaded
  | error
  | virus
  | compressing
  | uploading
  | dead
  | unrecognized
deriving DecidableEq, Repr

namespace Status

def word : Status → String
  | magnetError => "magnet_error"
  | magnetConversion => "magnet_conversion"
  | waitingFilesSelection => "waiting_files_selection"
  | queued => "queued"
  | downloading => "downloading"
  | downloaded => "downloaded"
  | error => "error"
  | virus => "virus"
  | compressing => "compressing"
  | uploading => "uploading"
  | dead => "dead"
  | unrecognized => "unrecognized"

/-- The states that the service has words for. -/
def reported : List Status :=
  [magnetError, magnetConversion, waitingFilesSelection, queued, downloading, downloaded, error,
    virus, compressing, uploading, dead]

def ofWord (word : String) : Status :=
  (reported.find? fun status => status.word == word).getD unrecognized

/-- The state that a reported value means; only a text can mean one. -/
def ofJson : Json → Status
  | .str word => ofWord word
  | _ => unrecognized

/-- Whether the torrent has failed for good. -/
def isTerminal : Status → Bool
  | magnetError | error | virus | dead => true
  | _ => false

end Status
end MagnetStream.Torrent
