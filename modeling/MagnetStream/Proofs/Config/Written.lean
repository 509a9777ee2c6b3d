import MagnetStream.Proofs.Config.Agreement
import MagnetStream.Proofs.Config.Soundness

/-!
# Settings written out

Accepted settings can be written out by the names of their fields. What is read from that are the
same settings, but for the directory of the cache, which is read once more
(`accepted_settings_read_again`). The base URL has no slash at its end any more, the log format no
longer follows from anything, and numbers, words and texts mean what they meant. The directory is as
it was as long as no tilde stands in front of it. No number has to be compared here, so seconds that
are no number come back as well.
-/

namespace MagnetStream.Config

def Service.toJson (service : Service) : Json := .obj [
  ("base_url", .str service.baseUrl),
  ("timeout_seconds", .float service.timeout),
  ("cache_age_seconds", .int service.cacheAge),
  ("extra_headers", .arr (service.extraHeaders.map .str)),
  ("poll_budget", .int service.pollBudget),
  ("poll_interval_seconds", .float service.pollInterval)]

/-- The section of a cache, written out. The directory has its long name. -/
def Cache.toJson (cache : Cache) : Json := .obj [
  ("backend", .str (wordFor backends cache.backend)),
  ("directory", .str cache.directory),
  ("redis_url", .str cache.redisUrl),
  ("max_concurrent", .int cache.maxConcurrent)]

def Settings.toJson (settings : Settings) : Json := .obj [
  ("app_name", .str settings.appName),
  ("environment", .str (wordFor environments settings.environment)),
  ("debrid", settings.service.toJson),
  ("cache", settings.cache.toJson),
  ("log_level", .str (wordFor logLevels settings.logLevel)),
  ("log_format", .str (wordFor logFormats settings.logFormat))]

namespace WrittenLemmas

variable {homes : Homes} {value : Json}

/-! ## Single values -/

/-- What some word means is read from the word for it. -/
theorem readWord_wordFor {α : Type} [BEq α] {words : List (String × α)}
    (hwords : ∀ row ∈ words, words.lookup (wordFor words row.2) = some row.2)
    {meaning : α} (h : readWord words value = .ok meaning) :
    readWord words (.str (wordFor words meaning)) = .ok meaning := by
  unfold readWord at h
  split at h
  · next word =>
    split at h
    · next found hfound =>
      cases h
      obtain ⟨front, back, hrows, _⟩ := List.lookup_eq_some_iff.mp hfound
      have hm : (word, meaning) ∈ words := hrows ▸ List.mem_append_cons_self
      simp only [readWord, hwords _ hm]
    · cases h
  · cases h

theorem readItems_texts (index : Nat) (texts : List String) :
    readItems index (texts.map Json.str) = .valid texts := by
  induction texts generalizing index with
  | nil => rfl
  | cons first rest ih =>
    rw [List.map_cons, readItems, ih]
    rfl

theorem readBaseUrl_of_validateBase {url : String} (h : Url.validateBase url = .ok url) :
    readBaseUrl (.str url) = .valid url := by
  simp only [readBaseUrl, readText, Checked.ofExcept, Checked.bind, h]

theorem readExtraHeaders_of_readHeaders {texts : List String} {headers : List (String × String)}
    (h : Http.readHeaders texts = .ok headers) :
    readExtraHeaders (.arr (texts.map .str)) = .valid texts := by
  rw [readExtraHeaders, readTexts, readItems_texts, Checked.bind, h]

theorem readSeconds_of_not_atMostZero {seconds : Binary64} (h : seconds.atMostZero = false) :
    readSeconds (.float seconds) = .valid seconds :=
  Checked.require_eq_valid.mpr ⟨rfl, by simpa using h⟩

theorem readCacheAge_of_nonneg {age : Int} (h : 0 ≤ age) : readCacheAge (.int age) = .valid age :=
  Checked.require_eq_valid.mpr ⟨rfl, by simpa using h⟩

theorem readPollBudget_of_pos {budget : Int} (h : 1 ≤ budget) :
    readPollBudget (.int budget) = .valid budget :=
  Checked.require_eq_valid.mpr ⟨rfl, by simpa using h⟩

/-! ## Members and sections -/

section Members

variable {α : Type} {members : List (String × Json)} {name other : String} {default : α}
  {read : Json → Checked α}

theorem eitherMember_first (h : Entries.has members name = true) :
    eitherMember members name other default read = member members name default read := if_pos h

theorem logMember_flat (h : Entries.has members name = true) :
    logMember members name other default read = member members name default read := if_pos h

/-- What holds of the default and of all that a reader accepts holds of a member of the log, be it
at the top or in its section. -/
theorem of_logMember (holds : α → Prop) {result : α}
    (h : logMember members name other default read = .valid result) (hdefault : holds default)
    (hread : ∀ {value result}, read value = .valid result → holds result) : holds result := by
  unfold logMember at h
  split at h
  · exact of_member holds h hdefault hread
  · split at h
    · exact of_member holds (Checked.under_eq_valid.mp h) hdefault hread
    · cases h
      exact hdefault

end Members

/-- A sound service is read again. -/
theorem readService_toJson {service : Service} (h : service.Sound) :
    readSection readService service.toJson = .valid service := by
  obtain ⟨headers, hheaders⟩ := h.extraHeaders
  rw [Service.toJson, readSection, readService,
    member_of_read rfl (readBaseUrl_of_validateBase h.baseUrl),
    member_of_read rfl (readSeconds_of_not_atMostZero h.timeout),
    member_of_read rfl (readCacheAge_of_nonneg h.cacheAge),
    member_of_read rfl (readExtraHeaders_of_readHeaders hheaders),
    member_of_read rfl (readPollBudget_of_pos h.pollBudget),
    member_of_read rfl (readSeconds_of_not_atMostZero h.pollInterval)]
  rfl

/-- A cache is read again with its directory as that is read. -/
theorem readCache_toJson {cache again : Cache} :
    readSection (readCache homes) cache.toJson = .valid again ↔
      ∃ path, readDirectory homes (.str cache.directory) = .valid path ∧
        again = { cache with directory := path } := by
  have hread : ∀ path, readDirectory homes (.str cache.directory) = .valid path →
      readSection (readCache homes) cache.toJson = .valid { cache with directory := path } := by
    intro path hpath
    have hbackend : readWord backends (.str (wordFor backends cache.backend)) =
        .ok cache.backend := by
      cases cache.backend <;> rfl
    have htext : readText (.str cache.redisUrl) = .ok cache.redisUrl := rfl
    have hnumber : readInt (.int cache.maxConcurrent) = .ok cache.maxConcurrent := rfl
    rw [Cache.toJson, readSection, readCache, member_of_read_word rfl hbackend,
      eitherMember_first rfl, member_of_read rfl hpath, member_of_read_word rfl htext,
      member_of_read_word rfl hnumber]
    rfl
  constructor
  · intro h
    have hdirectory := (parts_of_readCache h).directory
    rw [eitherMember_first rfl] at hdirectory
    have hpath := read_of_member hdirectory rfl
    exact ⟨_, hpath, Checked.valid.inj (h.symm.trans (hread _ hpath))⟩
  · rintro ⟨path, hpath, rfl⟩
    exact hread path hpath

/-! ## Accepted settings -/

section Accepted

variable {settings : Settings}

/-- The level of accepted settings has a word. -/
theorem level_of_readSettings (h : readSettings homes value = .valid settings) :
    readWord logLevels (.str (wordFor logLevels settings.logLevel)) = .ok settings.logLevel := by
  cases value with
  | obj layer =>
    refine of_logMember
      (fun level => readWord logLevels (.str (wordFor logLevels level)) = .ok level)
      (parts_of_readSettings h).logLevel rfl fun hread => ?_
    exact readWord_wordFor (by decide) (Checked.ofExcept_eq_valid.mp hread)
  | _ => cases h

/-- The directory of a cache was read from some text; the usual one is read as it is. -/
theorem directory_of_readCache {cache : Cache}
    (h : readSection (readCache homes) value = .valid cache) :
    ∃ text, normalPath homes text = .ok cache.directory := by
  have hread : ∀ {value : Json} {path : String}, readDirectory homes value = .valid path →
      ∃ text, normalPath homes text = .ok path := by
    intro value path hpath
    cases value with
    | str text => exact ⟨text, AgreementLemmas.readDirectory_eq_valid.mp hpath⟩
    | _ => cases hpath
  cases value with
  | obj members =>
    have hdirectory := (parts_of_readCache h).directory
    unfold eitherMember at hdirectory
    split at hdirectory
    all_goals
      exact of_member (fun path => ∃ text, normalPath homes text = .ok path) hdirectory
        ⟨defaultCache.directory, rfl⟩ hread
  | _ => cases h

theorem directory_read_from_text (h : readSettings homes value = .valid settings) :
    ∃ text, normalPath homes text = .ok settings.cache.directory := by
  cases value with
  | obj layer =>
    exact of_member (fun cache : Cache => ∃ text, normalPath homes text = .ok cache.directory)
      (parts_of_readSettings h).cache ⟨defaultCache.directory, rfl⟩ directory_of_readCache
  | _ => cases h

/-- Settings whose parts are fine are read again with the directory of the cache as that is read. -/
theorem readSettings_toJson {again : Settings} (hservice : settings.service.Sound)
    (hlevel : readWord logLevels (.str (wordFor logLevels settings.logLevel)) =
      .ok settings.logLevel) :
    readSettings homes settings.toJson = .valid again ↔
      ∃ path, normalPath homes settings.cache.directory = .ok path ∧
        again = { settings with cache := { settings.cache with directory := path } } := by
  have hread : ∀ cache, readSection (readCache homes) settings.cache.toJson = .valid cache →
      readSettings homes settings.toJson = .valid { settings with cache } := by
    intro cache hcache
    have hname : readText (.str settings.appName) = .ok settings.appName := rfl
    have henvironment : readWord environments (.str (wordFor environments settings.environment)) =
        .ok settings.environment := by
      cases settings.environment <;> rfl
    have hformat : readLogFormat (.str (wordFor logFormats settings.logFormat)) =
        .valid (some settings.logFormat) := by
      cases settings.logFormat <;> rfl
    rw [Settings.toJson, readSettings, readSection, member_of_read_word rfl hname,
      member_of_read_word rfl henvironment, member_of_read rfl (readService_toJson hservice),
      member_of_read rfl hcache, logMember_flat rfl, member_of_read_word rfl hlevel,
      logMember_flat rfl, member_of_read rfl hformat]
    rfl
  constructor
  · intro h
    have hcache := read_of_member (parts_of_readSettings h).cache rfl
    have hsame := Checked.valid.inj (h.symm.trans (hread _ hcache))
    obtain ⟨path, hpath, heq⟩ := readCache_toJson.mp hcache
    exact ⟨path, AgreementLemmas.readDirectory_eq_valid.mp hpath, by rw [hsame, heq]⟩
  · rintro ⟨path, hpath, rfl⟩
    have hdirectory := AgreementLemmas.readDirectory_eq_valid.mpr hpath
    exact hread _ (readCache_toJson.mpr ⟨path, hdirectory, rfl⟩)

end Accepted
end WrittenLemmas

open WrittenLemmas

/-- Accepted settings that are written out give the same settings again, but for the directory of
the cache, which is read once more: they are accepted just when it can be read, and the same just
when it is read as it is. And it is, if the homes are settled or if no tilde stands in front of it.
The base URL and the log format, be it given or not, are read as they are in any case. -/
theorem accepted_settings_read_again {homes : Homes} {value : Json} {settings : Settings}
    (h : readSettings homes value = .valid settings) :
    readBaseUrl (.str settings.service.baseUrl) = .valid settings.service.baseUrl ∧
      readLogFormat (.str (wordFor logFormats settings.logFormat)) =
        .valid (some settings.logFormat) ∧
      (∀ again, readSettings homes settings.toJson = .valid again ↔
        ∃ path, normalPath homes settings.cache.directory = .ok path ∧
          again = { settings with cache := { settings.cache with directory := path } }) ∧
      (readSettings homes settings.toJson = .valid settings ↔
        normalPath homes settings.cache.directory = .ok settings.cache.directory) ∧
      (homes.Settled ∨ settings.cache.directory.toList.head? ≠ some '~' →
        readSettings homes settings.toJson = .valid settings) := by
  have hagain : ∀ again, readSettings homes settings.toJson = .valid again ↔ _ := fun again =>
    readSettings_toJson (sound_of_readSettings h) (level_of_readSettings h)
  have hsame : readSettings homes settings.toJson = .valid settings ↔
      normalPath homes settings.cache.directory = .ok settings.cache.directory := by
    rw [hagain]
    constructor
    · rintro ⟨path, hpath, heq⟩
      have hdirectory : settings.cache.directory = path := congrArg (·.cache.directory) heq
      rwa [← hdirectory] at hpath
    · exact fun hpath => ⟨_, hpath, rfl⟩
  refine ⟨readBaseUrl_of_validateBase (sound_of_readSettings h).baseUrl, ?_, hagain, hsame,
    fun hfront => hsame.mpr ?_⟩
  · cases settings.logFormat <;> rfl
  · obtain ⟨text, htext⟩ := directory_read_from_text h
    have honce : homes.ReadOnce text := hfront.elim (·.readOnce text) fun hfront =>
      Homes.readOnce_of_no_tilde fun path hpath => by
        obtain rfl := Except.ok.inj (htext.symm.trans hpath)
        exact hfront
    exact honce _ htext

/-- What settings are read from: slashes at the end of the base URL, seconds that are no number, a
directory below the home with parts that do not count, and no log format. -/
def untidySettings : Json := .obj [
  ("environment", .str "prod"),
  ("debrid", .obj [("base_url", .str "https://example.com/api//"), ("timeout_seconds", .str "nan"),
    ("extra_headers", .arr [.str "X-Foo: bar"])]),
  ("cache", .obj [("dir", .str "~//cache/./debrid")]),
  ("logging", .obj [("level", .str "ERROR")])]

/-- The settings that are read from `untidySettings`. -/
def tidySettings : Settings where
  appName := "debridstream"
  environment := .prod
  service :=
    { defaultService with
      baseUrl := "https://example.com/api", timeout := .nan, extraHeaders := ["X-Foo: bar"] }
  cache := { defaultCache with directory := "/home/me/cache/debrid" }
  logLevel := .error
  logFormat := .json

/-- They are read again from what they are written out as. -/
theorem accepted_settings_read_again_tidily :
    readSettings plainHomes untidySettings = .valid tidySettings ∧
      readSettings plainHomes tidySettings.toJson = .valid tidySettings := by
  have hread : readSettings plainHomes untidySettings = .valid tidySettings := rfl
  exact ⟨hread, (accepted_settings_read_again hread).2.2.2.2 (.inr (by decide))⟩

/-- A directory that is called like a home is read from a text and, written out, is read as that
home. -/
theorem home_is_read_from_written_directory :
    readSettings bareHomes (.obj [("cache", .obj [("dir", .str "~/~")])]) =
        .valid (settingsIn "~") ∧
      readSettings bareHomes (settingsIn "~").toJson = .valid (settingsIn ".") ∧
      settingsIn "." ≠ settingsIn "~" :=
  ⟨rfl, rfl, by decide⟩

end MagnetStream.Config
