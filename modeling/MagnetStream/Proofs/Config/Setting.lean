import MagnetStream.Config.Load
import MagnetStream.Proofs.Checked
import MagnetStream.Proofs.Config.Layer

/-!
# Single settings

Each setting has a name for variables and a spot in the settings, and one reader that makes a value
out of what stands there (`Setting.Reads`). Reading all settings at once reads each of them at its
spot (`reads_of_readSettings`), but for the directory of the cache, which has two spots
(`directory_of_readSettings`).
-/

namespace MagnetStream.Config

inductive Setting where
  | appName
  | environment
  | baseUrl
  | timeout
  | cacheAge
  | extraHeaders
  | pollBudget
  | pollInterval
  | backend
  | directory
  | redisUrl
  | maxConcurrent
  | logLevel
  | logFormat
deriving DecidableEq

namespace Setting

/-- The name of a setting in variables, and flat in a layer. -/
def name : Setting → String
  | appName => "app_name"
  | environment => "environment"
  | baseUrl => "debrid_base_url"
  | timeout => "debrid_timeout_seconds"
  | cacheAge => "debrid_cache_age_seconds"
  | extraHeaders => "debrid_extra_headers"
  | pollBudget => "debrid_poll_budget"
  | pollInterval => "debrid_poll_interval_seconds"
  | backend => "cache_backend"
  | directory => "cache_dir"
  | redisUrl => "cache_redis_url"
  | maxConcurrent => "cache_max_concurrent"
  | logLevel => "log_level"
  | logFormat => "log_format"

/-- The spot of a setting. The directory of the cache has its short one here. -/
def spot : Setting → Spot
  | appName => .top "app_name"
  | environment => .top "environment"
  | baseUrl => .inside "debrid" "base_url"
  | timeout => .inside "debrid" "timeout_seconds"
  | cacheAge => .inside "debrid" "cache_age_seconds"
  | extraHeaders => .inside "debrid" "extra_headers"
  | pollBudget => .inside "debrid" "poll_budget"
  | pollInterval => .inside "debrid" "poll_interval_seconds"
  | backend => .inside "cache" "backend"
  | directory => .inside "cache" "dir"
  | redisUrl => .inside "cache" "redis_url"
  | maxConcurrent => .inside "cache" "max_concurrent"
  | logLevel => .inside "logging" "level"
  | logFormat => .inside "logging" "format"

/-- A value reads as what the settings hold. A log format that is left open follows from the
environment. -/
def Reads (homes : Homes) (value : Json) (settings : Settings) : Setting → Prop
  | appName => readText value = .ok settings.appName
  | environment => readWord environments value = .ok settings.environment
  | baseUrl => readBaseUrl value = .valid settings.service.baseUrl
  | timeout => readSeconds value = .valid settings.service.timeout
  | cacheAge => readCacheAge value = .valid settings.service.cacheAge
  | extraHeaders => readExtraHeaders value = .valid settings.service.extraHeaders
  | pollBudget => readPollBudget value = .valid settings.service.pollBudget
  | pollInterval => readSeconds value = .valid settings.service.pollInterval
  | backend => readWord backends value = .ok settings.cache.backend
  | directory => readDirectory homes value = .valid settings.cache.directory
  | redisUrl => readText value = .ok settings.cache.redisUrl
  | maxConcurrent => readInt value = .ok settings.cache.maxConcurrent
  | logLevel => readWord logLevels value = .ok settings.logLevel
  | logFormat => ∃ format, readLogFormat value = .valid format ∧
      settings.logFormat = format.getD settings.environment.logFormat

theorem known_spot (setting : Setting) : setting.spot.Known := by
  cases setting <;> decide

/-- No setting is an object. -/
theorem Reads.ne_obj {homes : Homes} {value : Json} {settings : Settings} {setting : Setting}
    (h : setting.Reads homes value settings) (members : List (String × Json)) :
    value ≠ .obj members := by
  rintro rfl
  cases setting with
  | logFormat =>
    obtain ⟨format, hformat, _⟩ := h
    cases hformat
  | _ => cases h

end Setting

/-! ## Reading all settings at once -/

section Reading

variable {α : Type} {homes : Homes} {members : List (String × Json)} {value : Json}

/-- A member that is there is read by its reader. -/
theorem read_of_member {name : String} {default result : α} {read : Json → Checked α}
    (h : member members name default read = .valid result)
    (hvalue : Entries.get? members name = some value) : read value = .valid result := by
  rw [member, hvalue] at h
  exact Checked.under_eq_valid.mp h

theorem read_of_word_member {name : String} {default result : α} {read : Json → Except Problem α}
    (h : member members name default (fun value => .ofExcept (read value)) = .valid result)
    (hvalue : Entries.get? members name = some value) : read value = .ok result :=
  Checked.ofExcept_eq_valid.mp (read_of_member h hvalue)

theorem read_of_logMember {flat name : String} {default result : α} {read : Json → Checked α}
    {layer : Layer} (h : logMember layer flat name default read = .valid result)
    (hflat : Entries.get? layer flat = none)
    (hvalue : (Spot.inside "logging" name).find? layer = some value) :
    read value = .valid result := by
  obtain ⟨members, hsection, hmember⟩ := Spot.find?_inside_eq_some.mp hvalue
  have hno : Entries.has layer flat = false := by rw [Entries.has, hflat]; rfl
  rw [logMember, hno, if_neg Bool.false_ne_true, hsection] at h
  exact read_of_member (Checked.under_eq_valid.mp h) hmember

/-- A section that is there is read member by member. -/
theorem read_of_section {name : String} {default result : α} {layer : Layer}
    {read : List (String × Json) → Checked α}
    (h : member layer name default (readSection read) = .valid result)
    (hsection : Entries.get? layer name = some (.obj members)) : read members = .valid result :=
  read_of_member h hsection

/-- The parts of which settings that are read consist. -/
structure Parts (homes : Homes) (layer : Layer) (settings : Settings) : Prop where
  appName : member layer "app_name" "debridstream" (fun v => .ofExcept (readText v)) =
    .valid settings.appName
  environment : member layer "environment" .dev (fun v => .ofExcept (readWord environments v)) =
    .valid settings.environment
  service : member layer "debrid" defaultService (readSection readService) =
    .valid settings.service
  cache : member layer "cache" defaultCache (readSection (readCache homes)) =
    .valid settings.cache
  logLevel : logMember layer "log_level" "level" .info
    (fun v => .ofExcept (readWord logLevels v)) = .valid settings.logLevel
  logFormat : ∃ format, logMember layer "log_format" "format" none readLogFormat = .valid format ∧
    settings.logFormat = format.getD settings.environment.logFormat

theorem parts_of_readSettings {layer : Layer} {settings : Settings}
    (h : readSettings homes (.obj layer) = .valid settings) : Parts homes layer settings := by
  obtain ⟨_, format, hfive, hformat, rfl⟩ := Checked.seq_eq_valid.mp h
  obtain ⟨_, level, hfour, hlevel, rfl⟩ := Checked.seq_eq_valid.mp hfive
  obtain ⟨_, cache, hthree, hcache, rfl⟩ := Checked.seq_eq_valid.mp hfour
  obtain ⟨_, service, htwo, hservice, rfl⟩ := Checked.seq_eq_valid.mp hthree
  obtain ⟨_, environment, hone, henvironment, rfl⟩ := Checked.seq_eq_valid.mp htwo
  obtain ⟨appName, happName, rfl⟩ := Checked.map_eq_valid.mp hone
  exact ⟨happName, henvironment, hservice, hcache, hlevel, format, hformat, rfl⟩

structure ServiceParts (members : List (String × Json)) (service : Service) : Prop where
  baseUrl : member members "base_url" defaultService.baseUrl readBaseUrl = .valid service.baseUrl
  timeout : member members "timeout_seconds" defaultService.timeout readSeconds =
    .valid service.timeout
  cacheAge : member members "cache_age_seconds" defaultService.cacheAge readCacheAge =
    .valid service.cacheAge
  extraHeaders : member members "extra_headers" defaultService.extraHeaders readExtraHeaders =
    .valid service.extraHeaders
  pollBudget : member members "poll_budget" defaultService.pollBudget readPollBudget =
    .valid service.pollBudget
  pollInterval : member members "poll_interval_seconds" defaultService.pollInterval readSeconds =
    .valid service.pollInterval

theorem parts_of_readService {service : Service} (h : readService members = .valid service) :
    ServiceParts members service := by
  obtain ⟨_, interval, hfive, hinterval, rfl⟩ := Checked.seq_eq_valid.mp h
  obtain ⟨_, budget, hfour, hbudget, rfl⟩ := Checked.seq_eq_valid.mp hfive
  obtain ⟨_, headers, hthree, hheaders, rfl⟩ := Checked.seq_eq_valid.mp hfour
  obtain ⟨_, age, htwo, hage, rfl⟩ := Checked.seq_eq_valid.mp hthree
  obtain ⟨_, timeout, hone, htimeout, rfl⟩ := Checked.seq_eq_valid.mp htwo
  obtain ⟨url, hurl, rfl⟩ := Checked.map_eq_valid.mp hone
  exact ⟨hurl, htimeout, hage, hheaders, hbudget, hinterval⟩

structure CacheParts (homes : Homes) (members : List (String × Json)) (cache : Cache) : Prop where
  backend : member members "backend" defaultCache.backend
    (fun v => .ofExcept (readWord backends v)) = .valid cache.backend
  directory : eitherMember members "directory" "dir" defaultCache.directory (readDirectory homes) =
    .valid cache.directory
  redisUrl : member members "redis_url" defaultCache.redisUrl (fun v => .ofExcept (readText v)) =
    .valid cache.redisUrl
  maxConcurrent : member members "max_concurrent" defaultCache.maxConcurrent
    (fun v => .ofExcept (readInt v)) = .valid cache.maxConcurrent

theorem parts_of_readCache {cache : Cache} (h : readCache homes members = .valid cache) :
    CacheParts homes members cache := by
  obtain ⟨_, number, hthree, hnumber, rfl⟩ := Checked.seq_eq_valid.mp h
  obtain ⟨_, url, htwo, hurl, rfl⟩ := Checked.seq_eq_valid.mp hthree
  obtain ⟨_, directory, hone, hdirectory, rfl⟩ := Checked.seq_eq_valid.mp htwo
  obtain ⟨backend, hbackend, rfl⟩ := Checked.map_eq_valid.mp hone
  exact ⟨hbackend, hdirectory, hurl, hnumber⟩

/-- Every setting but the directory of the cache is read at its spot. -/
theorem reads_of_readSettings {layer : Layer} {settings : Settings}
    (h : readSettings homes (.obj layer) = .valid settings)
    (hlevel : Entries.get? layer "log_level" = none)
    (hformat : Entries.get? layer "log_format" = none) {setting : Setting}
    (hsetting : setting ≠ .directory) (hfound : setting.spot.find? layer = some value) :
    setting.Reads homes value settings := by
  have hparts := parts_of_readSettings h
  have hservice : ∀ {name : String}, (Spot.inside "debrid" name).find? layer = some value →
      ∃ members, ServiceParts members settings.service ∧
        Entries.get? members name = some value := by
    intro name hfound
    obtain ⟨members, hsection, hmember⟩ := Spot.find?_inside_eq_some.mp hfound
    exact ⟨members, parts_of_readService (read_of_section hparts.service hsection), hmember⟩
  have hcache : ∀ {name : String}, (Spot.inside "cache" name).find? layer = some value →
      ∃ members, CacheParts homes members settings.cache ∧
        Entries.get? members name = some value := by
    intro name hfound
    obtain ⟨members, hsection, hmember⟩ := Spot.find?_inside_eq_some.mp hfound
    exact ⟨members, parts_of_readCache (read_of_section hparts.cache hsection), hmember⟩
  cases setting with
  | appName => exact read_of_word_member hparts.appName hfound
  | environment => exact read_of_word_member hparts.environment hfound
  | baseUrl =>
    obtain ⟨members, hsection, hmember⟩ := hservice hfound
    exact read_of_member hsection.baseUrl hmember
  | timeout =>
    obtain ⟨members, hsection, hmember⟩ := hservice hfound
    exact read_of_member hsection.timeout hmember
  | cacheAge =>
    obtain ⟨members, hsection, hmember⟩ := hservice hfound
    exact read_of_member hsection.cacheAge hmember
  | extraHeaders =>
    obtain ⟨members, hsection, hmember⟩ := hservice hfound
    exact read_of_member hsection.extraHeaders hmember
  | pollBudget =>
    obtain ⟨members, hsection, hmember⟩ := hservice hfound
    exact read_of_member hsection.pollBudget hmember
  | pollInterval =>
    obtain ⟨members, hsection, hmember⟩ := hservice hfound
    exact read_of_member hsection.pollInterval hmember
  | backend =>
    obtain ⟨members, hsection, hmember⟩ := hcache hfound
    exact read_of_word_member hsection.backend hmember
  | directory => exact absurd rfl hsetting
  | redisUrl =>
    obtain ⟨members, hsection, hmember⟩ := hcache hfound
    exact read_of_word_member hsection.redisUrl hmember
  | maxConcurrent =>
    obtain ⟨members, hsection, hmember⟩ := hcache hfound
    exact read_of_word_member hsection.maxConcurrent hmember
  | logLevel => exact Checked.ofExcept_eq_valid.mp (read_of_logMember hparts.logLevel hlevel hfound)
  | logFormat =>
    obtain ⟨format, hread, heffective⟩ := hparts.logFormat
    exact ⟨format, read_of_logMember hread hformat hfound, heffective⟩

/-- The long spot of the directory of the cache. -/
def longDirectory : Spot := .inside "cache" "directory"

/-- The directory of the cache is read at its long spot, and at its short one if there is nothing.
-/
theorem directory_of_readSettings {layer : Layer} {settings : Settings}
    (h : readSettings homes (.obj layer) = .valid settings)
    (hfound : (longDirectory.find? layer).or (Setting.directory.spot.find? layer) = some value) :
    readDirectory homes value = .valid settings.cache.directory := by
  -- Both spots are in the same section.
  obtain ⟨members, hsection⟩ : ∃ members, Entries.get? layer "cache" = some (.obj members) := by
    rcases Option.or_eq_some_iff.mp hfound with hlong | ⟨_, hshort⟩
    · obtain ⟨members, hsection, _⟩ := Spot.find?_inside_eq_some.mp hlong
      exact ⟨members, hsection⟩
    · obtain ⟨members, hsection, _⟩ := Spot.find?_inside_eq_some.mp hshort
      exact ⟨members, hsection⟩
  have hdirectory :=
    (parts_of_readCache (read_of_section (parts_of_readSettings h).cache hsection)).directory
  have hspot : ∀ name, (Spot.inside "cache" name).find? layer = Entries.get? members name := by
    intro name
    rw [Spot.find?_inside, hsection]
    rfl
  rw [longDirectory, Setting.spot, hspot, hspot] at hfound
  rw [eitherMember, Entries.has] at hdirectory
  cases hlong : Entries.get? members "directory" with
  | some long =>
    rw [hlong] at hfound hdirectory
    exact read_of_member hdirectory (hlong.trans hfound)
  | none =>
    rw [hlong] at hfound hdirectory
    exact read_of_member hdirectory hfound

/-! ## From single settings to all of them -/

theorem member_of_read {name : String} {default result : α} {read : Json → Checked α}
    (hvalue : Entries.get? members name = some value) (h : read value = .valid result) :
    member members name default read = .valid result := by
  rw [member, hvalue]
  exact Checked.under_eq_valid.mpr h

theorem member_of_read_word {name : String} {default result : α} {read : Json → Except Problem α}
    (hvalue : Entries.get? members name = some value) (h : read value = .ok result) :
    member members name default (fun value => .ofExcept (read value)) = .valid result :=
  member_of_read hvalue (Checked.ofExcept_eq_valid.mpr h)

theorem logMember_of_read {flat name : String} {default result : α} {read : Json → Checked α}
    {layer : Layer} (hflat : Entries.get? layer flat = none)
    (hvalue : (Spot.inside "logging" name).find? layer = some value)
    (h : read value = .valid result) : logMember layer flat name default read = .valid result := by
  obtain ⟨members, hsection, hmember⟩ := Spot.find?_inside_eq_some.mp hvalue
  have hno : Entries.has layer flat = false := by rw [Entries.has, hflat]; rfl
  rw [logMember, hno, if_neg Bool.false_ne_true, hsection]
  exact Checked.under_eq_valid.mpr (member_of_read hmember h)

/-- If every setting reads at its spot, all of them are read. -/
theorem readSettings_of_reads {layer : Layer} {settings : Settings}
    (hlevel : Entries.get? layer "log_level" = none)
    (hformat : Entries.get? layer "log_format" = none)
    (hlong : longDirectory.find? layer = none)
    (h : ∀ setting : Setting, ∃ value, setting.spot.find? layer = some value ∧
      setting.Reads homes value settings) :
    readSettings homes (.obj layer) = .valid settings := by
  obtain ⟨appName, hfindApp, happName⟩ := h .appName
  obtain ⟨environment, hfindEnvironment, henvironment⟩ := h .environment
  obtain ⟨level, hfindLevel, hreadLevel⟩ := h .logLevel
  obtain ⟨format, hfindFormat, found, hreadFormat, heffective⟩ := h .logFormat
  obtain ⟨url, hfindUrl, hurl⟩ := h .baseUrl
  obtain ⟨backend, hfindBackend, hbackend⟩ := h .backend
  obtain ⟨directory, hfindDirectory, hdirectory⟩ := h .directory
  obtain ⟨service, hservice, _⟩ := Spot.find?_inside_eq_some.mp hfindUrl
  obtain ⟨cache, hcache, _⟩ := Spot.find?_inside_eq_some.mp hfindBackend
  -- The settings of a section are found in the same members.
  have hinside : ∀ {sectionName : String} {members : List (String × Json)},
      Entries.get? layer sectionName = some (.obj members) → ∀ name,
        (Spot.inside sectionName name).find? layer = Entries.get? members name := by
    intro sectionName members hsection name
    rw [Spot.find?_inside, hsection]
    rfl
  have hreadService : readService service = .valid settings.service := by
    obtain ⟨timeout, hfindTimeout, htimeout⟩ := h .timeout
    obtain ⟨age, hfindAge, hage⟩ := h .cacheAge
    obtain ⟨headers, hfindHeaders, hheaders⟩ := h .extraHeaders
    obtain ⟨budget, hfindBudget, hbudget⟩ := h .pollBudget
    obtain ⟨interval, hfindInterval, hinterval⟩ := h .pollInterval
    rw [readService,
      member_of_read ((hinside hservice _).symm.trans hfindUrl) hurl,
      member_of_read ((hinside hservice _).symm.trans hfindTimeout) htimeout,
      member_of_read ((hinside hservice _).symm.trans hfindAge) hage,
      member_of_read ((hinside hservice _).symm.trans hfindHeaders) hheaders,
      member_of_read ((hinside hservice _).symm.trans hfindBudget) hbudget,
      member_of_read ((hinside hservice _).symm.trans hfindInterval) hinterval]
    rfl
  have hreadCache : readCache homes cache = .valid settings.cache := by
    obtain ⟨redisUrl, hfindRedis, hredis⟩ := h .redisUrl
    obtain ⟨number, hfindNumber, hnumber⟩ := h .maxConcurrent
    have hnoLong : Entries.has cache "directory" = false := by
      rw [Entries.has, ← hinside hcache "directory"]
      exact congrArg Option.isSome hlong
    rw [readCache,
      member_of_read_word ((hinside hcache _).symm.trans hfindBackend) hbackend,
      eitherMember, hnoLong, if_neg Bool.false_ne_true,
      member_of_read ((hinside hcache _).symm.trans hfindDirectory) hdirectory,
      member_of_read_word ((hinside hcache _).symm.trans hfindRedis) hredis,
      member_of_read_word ((hinside hcache _).symm.trans hfindNumber) hnumber]
    rfl
  rw [readSettings, readSection,
    member_of_read_word hfindApp happName, member_of_read_word hfindEnvironment henvironment,
    member_of_read hservice (show readSection readService (.obj service) = _ from hreadService),
    member_of_read hcache (show readSection (readCache homes) (.obj cache) = _ from hreadCache),
    logMember_of_read hlevel hfindLevel (Checked.ofExcept_eq_valid.mpr hreadLevel),
    logMember_of_read hformat hfindFormat hreadFormat]
  show Checked.valid _ = _
  rw [Settings.complete, ← heffective]

end Reading
end MagnetStream.Config
