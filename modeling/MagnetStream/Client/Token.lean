import MagnetStream.Client.Confirmation

/-!
# Checking tokens

A token is valid if the service knows its user. A valid token is confirmed for 24 hours; a rejected
one is asked about again every time. Trouble with the cache only costs a request.
-/

namespace MagnetStream.Client.Token

/-- How long a confirmed token stays trusted. -/
def trust : Calendar.Duration := .ofSeconds 86400

def store : Confirmations := ⟨"token", 86400⟩

def userPath : String := "/rest/1.0/user"

/-- Whether the cache holds a fresh confirmation of a token. -/
def isConfirmed (token : String) : Session Bool := do
  let shown : String × Json := ("api_token", .str token)
  match ← (store.find token).attempt with
  | .error failure =>
    .log .error "token_cache_read_failed" [shown, ("error", .str failure.message)]
    pure false
  | .ok none =>
    .log .debug "token_cache_miss" [shown]
    pure false
  | .ok (some confirmed) =>
    let age := (← Session.now).since confirmed
    if trust < age then
      .log .debug "token_cache_expired" [shown, ("expired_since", .str (age - trust).toText)]
      pure false
    else
      .log .debug "token_cache_hit" [shown]
      pure true

def askService [Json.Nesting] (base token : String) : Session Unit := do
  match ← (Session.get token (base ++ userPath)).attempt with
  | .error failure =>
    .log .info "token_check_failed"
      [("api_token", .str token), ("error", .str failure.message)]
    .fail failure
  | .ok body =>
    let user ← .lift (readObject "Couldn't parse user info response" body)
    if Entries.has user "id" then pure () else .fail (.badResponse .missingUserId)

/-- Fails unless a token is valid. -/
def validate [Json.Nesting] (base token : String) : Session Unit := do
  let shown : String × Json := ("api_token", .str token)
  .log .debug "token_check_started" [shown]
  if ← isConfirmed token then pure ()
  else
    askService base token
    .log .debug "token_ok" [shown]
    match ← (store.confirm token).attempt with
    | .ok () => pure ()
    | .error failure =>
      .log .error "token_cache_write_failed" [shown, ("error", .str failure.message)]

end MagnetStream.Client.Token
