import MagnetStream.Client.Confirmation
import MagnetStream.Text.Upper

/-!
# Instant availability

Hashes that were confirmed lately are answered from the cache, and all others are asked about in one
request. Only available hashes are confirmed, since what is not available may become so at any time.
Without any cache age the cache is neither read nor written.
-/

namespace MagnetStream.Client.Availability

/-- Where the service tells which hashes are available. -/
def path : String := "/rest/1.0/torrents/instantAvailability"

/-- The provider of whom something must be available. -/
def provider : String := "rd"

/-- How long a confirmed hash stays trusted, and where confirmed hashes are kept. -/
structure Policy where
  age : Calendar.Duration
  ttl : Int
deriving DecidableEq, Repr

def Policy.usesCache (policy : Policy) : Bool := decide ((⟨0⟩ : Calendar.Duration) < policy.age)

def Policy.store (policy : Policy) : Confirmations := ⟨"availability", policy.ttl⟩

/-- Hashes in capitals, without empty ones, each at its first place. -/
def wanted (hashes : List String) : List String :=
  (hashes.filter fun hash => !hash.isEmpty).foldl
    (fun seen hash =>
      if seen.contains (Text.upper hash) then seen else seen ++ [Text.upper hash]) []

/-- Whether the cache holds a fresh confirmation of a hash. -/
def isConfirmed (policy : Policy) (token hash : String) : Session Bool := do
  let shown : String × Json := ("info_hash", .str hash)
  match ← (policy.store.find hash).attempt with
  | .error failure =>
    .log .error "availability_cache_read_failed"
      [("api_token", .str token), shown, ("error", .str failure.message)]
    pure false
  | .ok none =>
    .log .debug "availability_cache_miss" [shown]
    pure false
  | .ok (some confirmed) =>
    let age := (← Session.now).since confirmed
    if policy.age < age then
      .log .debug "availability_cache_expired"
        [shown, ("expired_since", .str (age - policy.age).toText)]
      pure false
    else
      .log .debug "availability_cache_hit" [shown]
      pure true

/-- Parts hashes into those that the cache confirms and those that it does not. -/
def consultCache (policy : Policy) (token : String) :
    List String → Session (List String × List String)
  | [] => pure ([], [])
  | hash :: rest => do
    let confirmed ← if policy.usesCache then isConfirmed policy token hash else pure false
    let (known, unresolved) ← consultCache policy token rest
    if confirmed then pure (hash :: known, unresolved) else pure (known, hash :: unresolved)

def isAvailable (description : Json) : Bool :=
  match description.member? provider with
  | some (.arr (_ :: _)) => true
  | _ => false

/-- The requested hashes that a response confirms, each at the first key that confirms it. -/
def confirmedBy (requested : List String) (response : List (String × Json)) : List String :=
  response.foldl
    (fun confirmed (key, description) =>
      let hash := Text.upper key
      if requested.contains hash && !confirmed.contains hash && isAvailable description then
        confirmed ++ [hash]
      else confirmed) []

/-- Confirms hashes in the cache. One that cannot be written does not hinder the others. -/
def confirmAll (policy : Policy) (token : String) : List String → Session Unit
  | [] => pure ()
  | hash :: rest => do
    match ← (policy.store.confirm hash).attempt with
    | .ok () => pure ()
    | .error failure =>
      .log .error "availability_cache_write_failed"
        [("api_token", .str token), ("info_hash", .str hash), ("error", .str failure.message)]
    confirmAll policy token rest

def requestUrl (base : String) (hashes : List String) : String :=
  base ++ path ++ "/" ++ "/".intercalate hashes

/-- Asks the service about hashes; if that fails, none of them is available. -/
def askService [Json.Nesting] (policy : Policy) (base token : String) (hashes : List String) :
    Session (List String) := do
  let request : Session (List (String × Json)) := do
    let body ← Session.get token (requestUrl base hashes)
    .lift (readObject "Couldn't parse instant availability response" body)
  match ← request.attempt with
  | .error failure =>
    .log .error "availability_remote_check_failed"
      [("api_token", .str token), ("hashes", .int hashes.length), ("error", .str failure.message)]
    pure []
  | .ok response =>
    let confirmed := confirmedBy hashes response
    if policy.usesCache then confirmAll policy token confirmed
    pure confirmed

/-- The hashes among those given that are available, in capitals. -/
def check [Json.Nesting] (policy : Policy) (base token : String) (hashes : List String) :
    Session (List String) := do
  let hashes := wanted hashes
  if hashes.isEmpty then pure []
  else
    let (known, unresolved) ← consultCache policy token hashes
    if unresolved.isEmpty then pure known
    else
      let available := known ++ (← askService policy base token unresolved)
      .log .debug "availability_checked"
        [("api_token", .str token), ("requested", .int hashes.length),
          ("remote_checked", .int unresolved.length), ("available", .int available.length)]
      pure available

end MagnetStream.Client.Availability
