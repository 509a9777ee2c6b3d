import MagnetStream.Json.Basic

/-!
# Layers of settings

Settings come in layers, and what a later layer says wins. Inside one layer a setting may stand in a
section or flat at the top; the flat one wins. A layer in normal form has only sections and the two
settings that belong to none.
-/

namespace MagnetStream.Config

/-- A layer: settings by name. -/
abbrev Layer := List (String × Json)

namespace Layer

def sections : List String := ["debrid", "cache", "logging"]

/-- The settings that belong to no section. -/
def topNames : List String := ["app_name", "environment"]

def flatNames : List (String × String × String) := [
  ("debrid_base_url", "debrid", "base_url"),
  ("debrid_timeout_seconds", "debrid", "timeout_seconds"),
  ("debrid_cache_age_seconds", "debrid", "cache_age_seconds"),
  ("debrid_extra_headers", "debrid", "extra_headers"),
  ("debrid_poll_budget", "debrid", "poll_budget"),
  ("debrid_poll_interval_seconds", "debrid", "poll_interval_seconds"),
  ("cache_backend", "cache", "backend"),
  ("cache_dir", "cache", "dir"),
  ("cache_redis_url", "cache", "redis_url"),
  ("cache_max_concurrent", "cache", "max_concurrent"),
  ("log_level", "logging", "level"),
  ("log_format", "logging", "format")]

/-- The sections of a layer that are objects. -/
def sectionsOf (layer : Layer) : Layer :=
  sections.filterMap fun name =>
    match Entries.get? layer name with
    | some (.obj members) => some (name, .obj members)
    | _ => none

/-- The settings of a layer that belong to no section. -/
def topOf (layer : Layer) : Layer :=
  topNames.filterMap fun name => (Entries.get? layer name).map fun value => (name, value)

/-- Sets a setting in a section, which is made if it is not there. -/
def setIn (layer : Layer) (sectionName name : String) (value : Json) : Layer :=
  let members := match Entries.get? layer sectionName with
    | some (.obj members) => members
    | _ => []
  Entries.insert layer sectionName (.obj (Entries.insert members name value))

def normalize (layer : Layer) : Layer :=
  flatNames.foldl
    (fun acc (flat, sectionName, name) =>
      match Entries.get? layer flat with
      | some value => setIn acc sectionName name value
      | none => acc)
    (sectionsOf layer ++ topOf layer)

/-- The layer at the bottom, which every later one may override. -/
def defaults : Layer := [
  ("app_name", .str "debridstream"),
  ("environment", .str "dev"),
  ("debrid", .obj [
    ("base_url", .str "https://api.real-debrid.com"),
    ("timeout_seconds", .float (.ofNat 5)),
    ("cache_age_seconds", .int 86400),
    ("extra_headers", .arr []),
    ("poll_budget", .int 5),
    ("poll_interval_seconds", .float (.ofNat 1))]),
  ("cache", .obj [
    ("backend", .str "diskcache"),
    ("dir", .str "./.cache/debridstream"),
    ("redis_url", .str "redis://localhost:6379/0"),
    ("max_concurrent", .int 10)]),
  ("logging", .obj [("level", .str "INFO"), ("format", .null)])]

/-- Lays a layer in normal form over what is below it. -/
def coveredBy (below layer : Layer) : Layer := Json.mergeMembers below (normalize layer)

end Layer
end MagnetStream.Config
