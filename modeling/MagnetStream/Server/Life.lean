import MagnetStream.Server.Handler
import MagnetStream.Server.Wiring

/-!
# The life of a server

A server opens its storage, gets ready for the network, and makes its client; then it handles
requests; in the end it lets go of everything in reverse order. If it cannot get ready once the
storage is open, it closes the storage again.
-/

namespace MagnetStream

structure Server where
  extraHeaders : Entries String
  storage : Storage
  client : Client

namespace Server

def openStorage (settings : Config.Settings) : Wired Storage := do
  let storage ← onMedium (Storage.create settings.cache settings.service.cacheAge)
  let passage ← onMedium (storage.connect false)
  .lift passage.result
  .log .info "cache_initialized"
    [("backend", .str (Config.wordFor Config.backends storage.backend))]
  pure storage

def clientOf (service : Config.Service) : Except Failure Client := do
  let age ← (Calendar.Duration.ofSeconds service.cacheAge).check.mapError .badDuration
  Client.create service.baseUrl ⟨age, service.cacheAge⟩ service.pollBudget service.pollInterval

/-- Gets ready for the network and makes the client. -/
def assemble (service : Config.Service) (storage : Storage) : Wired Server := do
  .log .info "http_client_initialized" [("timeout", .float service.timeout)]
  let extraHeaders ← .lift (Http.readHeaders service.extraHeaders)
  let client ← .lift (clientOf service)
  .log .info "debrid_client_initialized" [("base_url", .str service.baseUrl)]
  pure ⟨extraHeaders, storage, client⟩

/-- Lets go of everything. -/
def shutDown (storage : Storage) : Wired Unit := do
  .log .info "http_client_closed" []
  let passage ← onMedium (storage.close true)
  .lift passage.result
  .log .info "cache_closed" []
  .log .info "app_shutdown_complete" []

def start (settings : Config.Settings) : Wired Server := do
  let storage ← openStorage settings
  match ← (assemble settings.service storage).attempt with
  | .ok server =>
    .log .info "app_startup_complete" []
    pure server
  | .error failure =>
    shutDown storage
    .fail failure

def handleWired [Json.Nesting] (server : Server) (address : String) (request : Request) :
    Wired Response :=
  wired server.extraHeaders server.storage (handle server.client address request)

def stop (server : Server) : Wired Unit := shutDown server.storage

end Server
end MagnetStream
