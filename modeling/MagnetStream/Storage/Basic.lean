import MagnetStream.Config.Settings
import MagnetStream.Dialogue

/-!
# Storages

The cache is kept in a storage, on a disk or on a server. A storage has to be opened before it is
used, and talks to a medium, each of whose answers may be a failure. A disk that does not open
leaves the storage closed; a server is asked for a sign of life once it is connected, and let go
again if it reports that it has none.
-/

namespace MagnetStream

/-- A storage: its kind, where it keeps its entries, and how many seconds it keeps an entry that
comes without a time to live. -/
structure Storage where
  backend : Backend
  place : String
  defaultTtl : Int
deriving DecidableEq, Repr

namespace Storage

inductive Command where
  | connect
  | ping
  | disconnect
  | read (key : String)
  /-- Keeps an entry for some seconds, or for good. -/
  | write (key : String) (entry : Json) (ttl : Option Int)

/-- A failure of a medium: one that the medium reports itself, or any other. -/
inductive Trouble where
  | reported (failure : Failure)
  | unforeseen (failure : Failure)

def Trouble.failure : Trouble → Failure
  | reported failure => failure
  | unforeseen failure => failure

/-- What a medium brings when it is asked. -/
@[reducible] def Answer : Command → Type
  | .read _ => Except Trouble (Option Json)
  | _ => Except Trouble Unit

/-- A dialogue of a storage with its medium. -/
abbrev Action (α : Type) := Dialogue Command Answer α

/-- Looks at the answer to a command; trouble is a failure. -/
def demand {α : Type} (result : Except Trouble α) : Action α :=
  .lift (result.mapError Trouble.failure)

def backendNamed (word : String) : Except Failure Backend :=
  match Config.backends.lookup word with
  | some backend => .ok backend
  | none => .error (.unknownBackend word)

/-- Makes a storage, which is not open yet. -/
def create (cache : Config.Cache) (defaultTtl : Int) : Action Storage := do
  let kind : String × Json := ("backend", .str (Config.wordFor Config.backends cache.backend))
  let storage ← match cache.backend with
    | .disk => do
      .log .info "cache_factory_create" [kind, ("directory", .str cache.directory)]
      pure ⟨.disk, (Config.Directory.ofText cache.directory).toText, defaultTtl⟩
    | .redis => do
      .log .info "cache_factory_create" [kind, ("url", .str cache.redisUrl)]
      pure ⟨.redis, cache.redisUrl, defaultTtl⟩
  if cache.maxConcurrent < 0 then .fail .negativeConcurrency else pure storage

/-- What became of opening or closing a storage: success or failure, and whether it is open now. -/
structure Passage where
  result : Except Failure Unit
  isOpen : Bool

def connect (storage : Storage) (isOpen : Bool) : Action Passage :=
  if isOpen then pure ⟨.ok (), true⟩
  else do
    match ← .query Command.connect with
    | .error trouble => pure ⟨.error trouble.failure, false⟩
    | .ok () =>
      match storage.backend with
      | .disk =>
        .log .info "diskcache_opened" [("path", .str storage.place)]
        pure ⟨.ok (), true⟩
      | .redis => greet
where
  /-- Asks a connected server for a sign of life. -/
  greet : Action Passage := do
    match ← .query Command.ping with
    | .ok () =>
      .log .info "redis_connected" [("url", .str storage.place)]
      pure ⟨.ok (), true⟩
    | .error (.unforeseen failure) => pure ⟨.error failure, true⟩
    | .error (.reported failure) =>
      .log .error "redis_connection_failed"
        [("url", .str storage.place), ("error", .str failure.message)]
      match ← .query Command.disconnect with
      | .ok () => pure ⟨.error failure, false⟩
      | .error trouble => pure ⟨.error trouble.failure, true⟩

def close (storage : Storage) (isOpen : Bool) : Action Passage :=
  if isOpen then do
    match ← .query Command.disconnect with
    | .error trouble => pure ⟨.error trouble.failure, true⟩
    | .ok () =>
      match storage.backend with
      | .disk => .log .info "diskcache_closed" [("directory", .str storage.place)]
      | .redis => .log .info "redis_closed" []
      pure ⟨.ok (), false⟩
  else pure ⟨.ok (), false⟩

def requireOpen (storage : Storage) (isOpen : Bool) : Action Unit :=
  if isOpen then pure () else .fail (.storageClosed storage.backend)

/-- Looks an entry up. What is not there is null. -/
def get (storage : Storage) (isOpen : Bool) (key : String) : Action Json := do
  storage.requireOpen isOpen
  let found ← demand (← .query (Command.read key))
  let entry := found.getD .null
  match storage.backend, found with
  | .disk, _ =>
    .log .debug "cache_get" [("key", .str key), ("hit", .bool (entry != .null))]
  | .redis, none => .log .debug "cache_miss" [("key", .str key)]
  | .redis, some _ => .log .debug "cache_hit" [("key", .str key)]
  pure entry

/-- Keeps an entry. A time to live of zero seconds has no end. -/
def set (storage : Storage) (isOpen : Bool) (key : String) (entry : Json) (ttl : Option Int) :
    Action Unit := do
  storage.requireOpen isOpen
  let ttl := ttl.getD storage.defaultTtl
  demand (← .query (Command.write key entry (if ttl = 0 then none else some ttl)))
  .log .debug "cache_set" [("key", .str key), ("ttl", .int ttl)]

inductive Use where
  | connect
  | close
  | get (key : String)
  | set (key : String) (entry : Json) (ttl : Option Int)

/-- What a use brings, and whether the storage is open afterwards. -/
structure Used where
  result : Except Failure Json
  isOpen : Bool

def use (storage : Storage) (isOpen : Bool) : Use → Action Used
  | .connect => do
    let passage ← storage.connect isOpen
    pure ⟨passage.result.map fun () => .null, passage.isOpen⟩
  | .close => do
    let passage ← storage.close isOpen
    pure ⟨passage.result.map fun () => .null, passage.isOpen⟩
  | .get key => do
    let result ← (storage.get isOpen key).attempt
    pure ⟨result, isOpen⟩
  | .set key entry ttl => do
    let result ← (storage.set isOpen key entry ttl).attempt
    pure ⟨result.map fun () => .null, isOpen⟩

end Storage
end MagnetStream
