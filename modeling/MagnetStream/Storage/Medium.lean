import MagnetStream.Storage.Basic

/-!
# Media for storages

Two media without chance: a disk, on which an entry is gone when its time is over, and which refuses
directories that cannot be made, and a server, which keeps its entries for good and may give no sign
of life. Both keep their entries when nobody is connected.
-/

namespace MagnetStream.Storage

/-- A medium: whether entries come to an end, what connecting fails with, if it does, and what a
call for a sign of life fails with, and the entries, each with the moment of its end in
microseconds, if it has one. -/
structure Medium where
  expires : Bool
  refusal : Option Failure
  silence : Option Failure
  entries : Entries (Json × Option Int)

namespace Medium

/-- Why a directory cannot be made. All directories above it can. -/
def refusal? (place : Config.Directory) : Option Failure :=
  if place.toText.toList.contains '\x00' then some .zeroInText
  else if place.meetsLongName fun _ => true then some (.directoryTooLong place.toText)
  else none

/-- An empty disk, on which a directory is asked for. -/
def disk (place : Config.Directory) : Medium := ⟨true, refusal? place, none, []⟩

def server (silence : Option Failure) : Medium := ⟨false, none, silence, []⟩

def ofCache (silence : Option Failure) (cache : Config.Cache) : Medium :=
  match cache.backend with
  | .disk => disk (.ofText cache.directory)
  | .redis => server silence

/-- The entry under a key that has not come to its end. -/
def find? (medium : Medium) (now : Int) (key : String) : Option Json :=
  match medium.entries.get? key with
  | none => none
  | some (entry, none) => some entry
  | some (entry, some theEnd) => if medium.expires && theEnd ≤ now then none else some entry

/-- Whether the end of an entry cannot be told, since its seconds are too many for a number. -/
def isEndless (medium : Medium) (ttl : Option Int) : Bool :=
  medium.expires && ttl.any fun seconds => (Binary64.ofInt? seconds).isNone

/-- What is kept of an entry: a disk keeps nothing of a number that is none. -/
def kept (medium : Medium) : Json → Json
  | .float .nan => if medium.expires then .null else .float .nan
  | entry => entry

def answer (now : Int) : (command : Command) → Medium → Answer command × Medium
  | .connect, medium =>
    (match medium.refusal with
      | some failure => .error (.unforeseen failure)
      | none => .ok (), medium)
  | .ping, medium =>
    (match medium.silence with
      | some failure => .error (.reported failure)
      | none => .ok (), medium)
  | .disconnect, medium => (.ok (), medium)
  | .read key, medium => (.ok (medium.find? now key), medium)
  | .write key entry ttl, medium =>
    if medium.isEndless ttl then (.error (.unforeseen .endlessTime), medium)
    else
      let theEnd := ttl.map fun seconds => now + seconds * Calendar.Duration.perSecond
      (.ok (), { medium with entries := medium.entries.insert key (medium.kept entry, theEnd) })

inductive Mark where
  | commanded (command : Command)
  | logged (event : Log.Event)

def responder (now : Int) : Responder Command Answer Medium Mark where
  answer command medium :=
    let (result, medium) := answer now command medium
    (result, medium, [.commanded command])
  noted := .logged

end Medium
end MagnetStream.Storage
