import MagnetStream.Server.Message
import MagnetStream.Url.Base

/-!
# Routes

Which requests the server takes. Every endpoint has one path and one method; slashes at the end of a
path lead to the path without them.
-/

namespace MagnetStream.Server

inductive Endpoint where
  | validate
  | availability
  | stream
  | health
deriving DecidableEq, Repr

namespace Endpoint

def all : List Endpoint := [validate, availability, stream, health]

def path : Endpoint → String
  | validate => "/api/v1/debrid/token/validate"
  | availability => "/api/v1/debrid/availability"
  | stream => "/api/v1/debrid/stream"
  | health => "/api/v1/healthz"

def method : Endpoint → String
  | validate | availability => "POST"
  | stream | health => "GET"

def at? (path : String) : Option Endpoint := all.find? (·.path == path)

end Endpoint

inductive Route where
  | endpoint (endpoint : Endpoint)
  | wrongMethod
  | elsewhere (path : String)
  | nowhere
deriving DecidableEq, Repr

def route (method path : String) : Route :=
  match Endpoint.at? path with
  | some endpoint => if endpoint.method == method then .endpoint endpoint else .wrongMethod
  | none =>
    let shorter := Url.dropEndSlashes path
    if (Endpoint.at? shorter).isSome then .elsewhere shorter else .nowhere

end MagnetStream.Server
