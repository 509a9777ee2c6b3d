import MagnetStream.Url.Target

/-!
# Redirects

A response may point to another place. Where its text names less than a whole target, the rest comes
from the target that was asked: the host of a scheme without one, the scheme and the host of a
relative text, and the fragment. Nobody goes to the place, but it has to make a target.
-/

namespace MagnetStream.Url.Target

/-- The schemes under which a relative text is joined to the target that was asked. -/
def joiningSchemes : List String :=
  ["file", "ftp", "gopher", "http", "https", "imap", "mms", "nntp", "prospero", "rtsp", "rtspu",
    "sftp", "shttp", "svn", "svn+ssh", "wais", "ws", "wss"]

/-- A place with a scheme and no host is at the host that was asked. -/
def lendHost (asked place : Target) : Except TargetFault Target := do
  if place.scheme.isEmpty then return place
  let host ← place.readableHost
  if !host.isEmpty then return place
  let name ← asked.readableHost
  let host ← encodeHost (if name.contains ':' then '[' :: name ++ [']'] else name)
  checkPath true true place.path
  return { place with host }

/-- A relative place is joined to the target that was asked, as far as scheme and host go. The empty
text stands for that target itself. -/
def join (asked place : Target) : Target :=
  if place.toText.isEmpty then asked
  else if place.isPlaced || !joiningSchemes.contains (String.ofList asked.scheme) then place
  else
    let host := if place.authority.isEmpty then asked.host else place.host
    { place with scheme := asked.scheme, host }

/-- Checks that the fragment that was asked for can be taken along to a place that has none. -/
def checkFragment (asked place : Target) : Except TargetFault Unit :=
  let fragment (target : Target) := unescape (target.fragment.getD [])
  if !(fragment place).isEmpty then .ok ()
  else
    match (fragment asked).findIdx? isControl with
    | some position => .error (.controlInFragment ((fragment asked).getD position ' ') position)
    | none => .ok ()

/-- Checks that the hosts that are compared can be read: that of the place and the one that was
asked, the former first if both have one scheme. -/
def checkHosts (asked place : Target) : Except TargetFault Unit := do
  let (first, second) := if place.scheme == asked.scheme then (place, asked) else (asked, place)
  let _ ← first.readableHost
  let _ ← second.readableHost

/-- Checks that a place makes a target, together with the target that was asked. -/
def checkRedirect (asked place : Target) : Except TargetFault Unit := do
  let place := asked.join (← asked.lendHost place)
  asked.checkFragment place
  asked.checkHosts place

end MagnetStream.Url.Target
