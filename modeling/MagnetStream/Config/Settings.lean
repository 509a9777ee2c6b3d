import MagnetStream.Config.Coerce
import MagnetStream.Http.Header
import MagnetStream.Log.Event

/-!
# Settings

The settings of the program and how they are read from one JSON value. The service and the cache
have sections of their own; level and format of the log may stand at the top or in a section.
-/

namespace MagnetStream.Config

inductive Environment where
  | dev
  | test
  | prod
deriving DecidableEq, Repr

def environments : List (String × Environment) := [("dev", .dev), ("test", .test), ("prod", .prod)]

inductive LogFormat where
  | json
  | console
deriving DecidableEq, Repr

def logFormats : List (String × LogFormat) := [("json", .json), ("console", .console)]

def logLevels : List (String × Log.Level) :=
  [("DEBUG", .debug), ("INFO", .info), ("WARNING", .warning), ("ERROR", .error)]

/-- The words for the kinds of storage. -/
def backends : List (String × Backend) := [("diskcache", .disk), ("redis", .redis)]

def wordFor {α : Type} [BEq α] (words : List (String × α)) (meaning : α) : String :=
  ((words.find? fun (_, other) => other == meaning).map Prod.fst).getD ""

structure Service where
  baseUrl : String
  timeout : Binary64
  cacheAge : Int
  extraHeaders : List String
  pollBudget : Int
  pollInterval : Binary64
deriving DecidableEq, Repr

structure Cache where
  backend : Backend
  directory : String
  redisUrl : String
  maxConcurrent : Int
deriving DecidableEq, Repr

structure Settings where
  appName : String
  environment : Environment
  service : Service
  cache : Cache
  logLevel : Log.Level
  logFormat : LogFormat
deriving DecidableEq, Repr

/-- The settings of a service that says nothing. -/
def defaultService : Service where
  baseUrl := "https://api.real-debrid.com"
  timeout := .ofNat 5
  cacheAge := 86400
  extraHeaders := []
  pollBudget := 5
  pollInterval := .ofNat 1

/-- The settings of a cache that says nothing. -/
def defaultCache : Cache where
  backend := .disk
  directory := ".cache/debridstream"
  redisUrl := "redis://localhost:6379/0"
  maxConcurrent := 10

/-- The value of a member, read at its place, or a default. -/
def member {α : Type} (members : List (String × Json)) (name : String) (default : α)
    (read : Json → Checked α) : Checked α :=
  match Entries.get? members name with
  | some value => (read value).under (.member name)
  | none => .valid default

def readSection {α : Type} (read : List (String × Json) → Checked α) : Json → Checked α
  | .obj members => read members
  | _ => .problem .sectionType

/-- Reads a base URL, which is kept without slashes at its end. -/
def readBaseUrl (value : Json) : Checked String :=
  (Checked.ofExcept (readText value)).bind fun text =>
    match Url.validateBase text with
    | .ok url => .valid url
    | .error fault => .problem (.refused fault.message)

/-- Reads a number of seconds, which must not be zero or less. -/
def readSeconds (value : Json) : Checked Binary64 :=
  (Checked.ofExcept (readFloat value)).require (fun x => !x.atMostZero) "must be > 0"

def readCacheAge (value : Json) : Checked Int :=
  (Checked.ofExcept (readInt value)).require (0 ≤ ·) "cache_age_seconds must be >= 0"

def readPollBudget (value : Json) : Checked Int :=
  (Checked.ofExcept (readInt value)).require (1 ≤ ·) "poll_budget must be >= 1"

/-- Reads extra headers, which are kept as they are written. -/
def readExtraHeaders (value : Json) : Checked (List String) :=
  (readTexts value).bind fun texts =>
    match Http.readHeaders texts with
    | .ok _ => .valid texts
    | .error failure => .problem (.refused failure.message)

def readService (members : List (String × Json)) : Checked Service :=
  let usual := defaultService
  Service.mk
    <$> member members "base_url" usual.baseUrl readBaseUrl
    <*> member members "timeout_seconds" usual.timeout readSeconds
    <*> member members "cache_age_seconds" usual.cacheAge readCacheAge
    <*> member members "extra_headers" usual.extraHeaders readExtraHeaders
    <*> member members "poll_budget" usual.pollBudget readPollBudget
    <*> member members "poll_interval_seconds" usual.pollInterval readSeconds

/-- The value of the first of two members that is there, read at its place, or a default. -/
def eitherMember {α : Type} (members : List (String × Json)) (first second : String) (default : α)
    (read : Json → Checked α) : Checked α :=
  if Entries.has members first then member members first default read
  else member members second default read

/-- Reads the section of the cache. The directory has a long and a short name. -/
def readCache (homes : Homes) (members : List (String × Json)) : Checked Cache :=
  let usual := defaultCache
  Cache.mk
    <$> member members "backend" usual.backend (fun v => .ofExcept (readWord backends v))
    <*> eitherMember members "directory" "dir" usual.directory (readDirectory homes)
    <*> member members "redis_url" usual.redisUrl (fun v => .ofExcept (readText v))
    <*> member members "max_concurrent" usual.maxConcurrent (fun v => .ofExcept (readInt v))

/-- The value of a member at the top, or else of a member of the log's section, or a default. -/
def logMember {α : Type} (members : List (String × Json)) (flat name : String) (default : α)
    (read : Json → Checked α) : Checked α :=
  if Entries.has members flat then member members flat default read
  else
    match Entries.get? members "logging" with
    | some (.obj logging) => (member logging name default read).under (.member "logging")
    | _ => .valid default

/-- Reads a log format, which may be left open. -/
def readLogFormat : Json → Checked (Option LogFormat)
  | .null => .valid none
  | value => some <$> .ofExcept (readWord logFormats value)

/-- The log format of an environment that sets none. -/
def Environment.logFormat : Environment → LogFormat
  | prod => .json
  | dev | test => .console

/-- Puts settings together; a log format that was left open follows from the environment. -/
def Settings.complete (appName : String) (environment : Environment) (service : Service)
    (cache : Cache) (logLevel : Log.Level) (logFormat : Option LogFormat) : Settings :=
  ⟨appName, environment, service, cache, logLevel, logFormat.getD environment.logFormat⟩

def readSettings (homes : Homes) (value : Json) : Checked Settings :=
  readSection (fun members =>
    Settings.complete
      <$> member members "app_name" "debridstream" (fun v => .ofExcept (readText v))
      <*> member members "environment" .dev (fun v => .ofExcept (readWord environments v))
      <*> member members "debrid" defaultService (readSection readService)
      <*> member members "cache" defaultCache (readSection (readCache homes))
      <*> logMember members "log_level" "level" .info (fun v => .ofExcept (readWord logLevels v))
      <*> logMember members "log_format" "format" none readLogFormat)
    value

end MagnetStream.Config
