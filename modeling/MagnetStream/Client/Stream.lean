import MagnetStream.Client.Session
import MagnetStream.Torrent.Status

/-!
# From a magnet link to a stream

Seven steps, each of which needs what the one before brought: submit the magnet link, look at the
torrent, choose a file, commit the choice, poll until the torrent is downloaded, take its first
link, and turn that into a public one. Polling is bounded by one budget for all phases of the
download.
-/

namespace MagnetStream.Client.Stream

open Torrent (Status File)

/-- Where magnet links are submitted. -/
def addPath : String := "/rest/1.0/torrents/addMagnet"

/-- Where the choice of a file is committed. -/
def choosePath : String := "/rest/1.0/torrents/selectFiles/"

/-- Where links of the service are made public. -/
def unrestrictPath : String := "/rest/1.0/unrestrict/link"

def infoPurpose : String := "Couldn't get torrent info"

/-- How often to poll, at least once, and how long to wait between two polls. -/
structure Polling where
  budget : Nat
  interval : Binary64
deriving DecidableEq, Repr

/-- Everything that is known when a stream has been found. -/
structure Resolution where
  magnet : String
  remote : Bool
  torrentUrl : String
  torrentId : String
  status : Status
  rawStatus : String
  files : List File
  selectedFileId : Int
  polls : Nat
  debridLink : String
  streamUrl : String
deriving DecidableEq, Repr

/-- The token as it is named in log events. -/
def tokenField (token : String) : String × Json := ("api_token", .str token)

/-- The URL under which a submitted magnet link is followed up, moved under the base. -/
def followUp (base : String) (members : List (String × Json)) : Except Failure String := do
  let url ← textMember "Couldn't add torrent" "uri" members
  (Url.moveUnder base url).mapError fun fault => .badResponse (.immovableUrl fault)

variable [Json.Nesting]

def submit (base token magnet : String) : Session String := do
  .log .debug "magnet_adding" [tokenField token]
  let body ← Session.post token (base ++ addPath) [("magnet", magnet)]
  .lift (do followUp base (← readObject "Couldn't add torrent" body))

def inspect (token url : String) : Session (List (String × Json)) := do
  let body ← Session.get token url
  .lift (readObject infoPurpose body)

def torrentId (info : List (String × Json)) : Except Failure String :=
  match (Entries.get? info "id").getD .null with
  | .null => .error (.badResponse (.missingKey infoPurpose "id"))
  | value =>
    if value.display.isEmpty then .error (.badResponse (.missingKey infoPurpose "id"))
    else .ok value.display

/-- The files of a torrent, at least one. -/
def torrentFiles (info : List (String × Json)) : Except Failure (List File) := do
  let files ← (File.ofListing ((Entries.get? info "files").getD .null)).mapError .notWhole
  if files.isEmpty then .error (.badResponse (.missingKey infoPurpose "files")) else .ok files

/-- The first link of a downloaded torrent, as text. -/
def firstLink (info : List (String × Json)) : Except Failure String :=
  match Entries.get? info "links" with
  | some (.arr (link :: _)) =>
    if link.isSomething then .ok link.display else .error (.badResponse .noLinks)
  | _ => .error (.badResponse .noLinks)

/-- The reported status as it is written in log events and failures: only a text counts. -/
def rawStatus (info : List (String × Json)) : String :=
  match Entries.get? info "status" with
  | some (.str word) => word
  | _ => ""

def status (info : List (String × Json)) : Status :=
  Status.ofJson ((Entries.get? info "status").getD .null)

/-- How long the whole budget lasts. -/
def Polling.waited (polling : Polling) : Binary64 :=
  (Binary64.ofNat polling.budget).mul polling.interval

/-- Ends the polls of a torrent that was not downloaded in time. -/
def timeOut (polling : Polling) (token id raw : String) : Session α := do
  .log .info "torrent_poll_timeout"
    [tokenField token, ("torrent_id", .str id), ("status", .str raw),
      ("waited_seconds", .float polling.waited)]
  .fail (.pollTimeout (if raw.isEmpty then "unknown" else raw) polling.waited)

/-- What one poll shows of a torrent that has not failed. -/
inductive Progress where
  | downloaded (info : List (String × Json))
  | waiting (rawStatus : String)

/-- Polls a torrent once, when `left` more polls are allowed. -/
def poll (token url id : String) (left : Nat) : Session Progress := do
  let info ← inspect token url
  let raw := rawStatus info
  let shown := [tokenField token, ("torrent_id", .str id), ("status", .str raw)]
  if (status info).isTerminal then
    .log .warning "torrent_failed" shown
    .fail (.terminalStatus raw)
  else if status info = .downloaded then pure (.downloaded info)
  else
    .log .debug "torrent_waiting" (shown ++ [("remaining_polls", .int left)])
    pure (.waiting raw)

/-- Polls a torrent once and then at most `left` times more, until it is downloaded or has failed.
Gives what the last poll brought and the number of polls. -/
def pollFrom (polling : Polling) (token url id : String) :
    Nat → Session (List (String × Json) × Nat)
  | 0 => do
    match ← poll token url id 0 with
    | .downloaded info => pure (info, polling.budget)
    | .waiting raw => timeOut polling token id raw
  | left + 1 => do
    match ← poll token url id (left + 1) with
    | .downloaded info => pure (info, polling.budget - (left + 1))
    | .waiting _ =>
      Session.pause polling.interval
      pollFrom polling token url id left

/-- Polls a torrent until it is downloaded, has failed, or the budget is used up. -/
def awaitDownload (polling : Polling) (token url id : String) :
    Session (List (String × Json) × Nat) :=
  pollFrom polling token url id (polling.budget - 1)

def unrestrictForm (link : String) (remote : Bool) : List (String × String) :=
  ("link", link) :: if remote then [("remote", "1")] else []

/-- Turns a link of the service into a public one. -/
def unrestrict (base token link : String) (remote : Bool) : Session String := do
  .log .debug "unrestrict_started" [tokenField token, ("remote", .bool remote)]
  let body ← Session.post token (base ++ unrestrictPath) (unrestrictForm link remote)
  let purpose := "Couldn't unrestrict link"
  let url ← .lift (do textMember purpose "download" (← readObject purpose body))
  .log .debug "unrestrict_done" [tokenField token, ("stream_url", .str url)]
  pure url

/-- Chooses a file of a torrent and commits the choice. -/
def choose (base token id : String) (files : List File) : Session Int := do
  let chosen ← .lift ((Torrent.selectFile files).mapError .noFile)
  let shown := [tokenField token, ("torrent_id", .str id)]
  .log .debug "torrent_info_ok"
    (shown ++ [("files", .int files.length), ("selected_file_id", .int chosen)])
  let _ ← Session.post token (base ++ choosePath ++ id) [("files", toString chosen)]
  .log .debug "torrent_files_selected" shown
  pure chosen

def resolve (polling : Polling) (base token magnet : String) (remote : Bool) :
    Session Resolution := do
  let url ← submit base token magnet
  let info ← inspect token url
  let id ← .lift (torrentId info)
  let files ← .lift (torrentFiles info)
  let chosen ← choose base token id files
  let (info, polls) ← awaitDownload polling token url id
  let link ← .lift (firstLink info)
  let shown := [tokenField token, ("torrent_id", .str id), ("polls", .int polls)]
  .log .debug "torrent_downloaded" shown
  let streamUrl ← unrestrict base token link remote
  .log .info "stream_resolved" shown
  pure ⟨magnet, remote, url, id, .downloaded, rawStatus info, files, chosen, polls, link, streamUrl⟩

end MagnetStream.Client.Stream
