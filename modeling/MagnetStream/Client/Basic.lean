import MagnetStream.Client.Availability
import MagnetStream.Client.Stream
import MagnetStream.Client.Token

/-!
# The client of the service

A client joins the three things that callers want: to check a token, to learn which hashes are
available, and to get a stream for a magnet link. All its requests go under one base URL.
-/

namespace MagnetStream

/-- A client: its base URL, which has no slash at its end, how long it trusts confirmed hashes, and
how it polls. -/
structure Client where
  base : String
  availability : Client.Availability.Policy
  polling : Client.Stream.Polling
deriving DecidableEq, Repr

namespace Client

def checkBudget (budget : Int) : Except Failure Nat :=
  if budget < 1 then .error .noPolls else .ok budget.toNat

/-- A client whose requests go under a base URL, in whatever way that ends. -/
def under (base : String) (availability : Availability.Policy) (polling : Stream.Polling) :
    Client :=
  ⟨Url.dropEndSlashes base, availability, polling⟩

/-- Makes a client, if its base URL can be one and it may poll at all. -/
def create (base : String) (availability : Availability.Policy) (budget : Int)
    (interval : Binary64) : Except Failure Client := do
  let base ← (Url.validateBase base).mapError .badBase
  let budget ← checkBudget budget
  .ok (under base availability ⟨budget, interval⟩)

/-- Hashes as callers give them: a collection, or by mistake a single text. -/
inductive Hashes where
  | many (hashes : List String)
  | single (text : String)
deriving DecidableEq, Repr

inductive Request where
  | validate (token : String)
  | check (token : String) (hashes : Hashes)
  | stream (token magnet : String) (remote : Bool)
deriving DecidableEq, Repr

inductive Response where
  | valid
  | available (hashes : List String)
  | streamUrl (url : String)
deriving DecidableEq, Repr

variable [Json.Nesting]

/-- Fails unless a token is valid. -/
def validateToken (client : Client) (token : String) : Session Unit :=
  Token.validate client.base token

/-- The available hashes among those given, in capitals. -/
def checkAvailability (client : Client) (token : String) : Hashes → Session (List String)
  | .many hashes => Availability.check client.availability client.base token hashes
  | .single _ => .fail .hashesNotList

def streamUrl (client : Client) (token magnet : String) (remote : Bool) : Session String := do
  let resolution ← Stream.resolve client.polling client.base token magnet remote
  pure resolution.streamUrl

def serve (client : Client) : Request → Session Response
  | .validate token => do client.validateToken token; pure .valid
  | .check token hashes => do return .available (← client.checkAvailability token hashes)
  | .stream token magnet remote => do return .streamUrl (← client.streamUrl token magnet remote)

end Client
end MagnetStream
