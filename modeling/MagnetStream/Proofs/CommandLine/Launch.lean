import MagnetStream.CommandLine.Launch
import MagnetStream.Proofs.CommandLine.Options
import MagnetStream.Proofs.Config.Precedence

/-!
# Options against everything else

What the command line gives decides host, port, base URL, and level and format of the log, whatever
variables and files say, with the exception of the number zero and of empty texts, which count as if
nothing were given (`given_option_wins_iff`).
-/

namespace MagnetStream.CommandLine

open Config (Layer Setting Spot)

namespace LaunchLemmas

variable {homes : Config.Homes} {files : Files} {exported : Config.Variables} {options : Options}
  {words : List String} {launched : Launch}

/-- The settings that come from somewhere, which may also say where the user's own home is. -/
def settingsOf [Json.Nesting] (homes : Config.Homes) (sources : Config.Sources) :
    Checked Config.Settings :=
  Config.load (homesFor homes sources) sources

/-- What becomes of options that were read. -/
def launchWith [Json.Nesting] (homes : Config.Homes) (files : Files) (exported : Config.Variables)
    (options : Options) : Except LaunchFault Launch := do
  let port ← portOf options exported
  match settingsOf homes (sourcesOf files exported options) with
  | .valid settings => .ok ⟨hostOf options exported, port, settings⟩
  | .invalid issues => .error (.issues issues)
  | .broken failure => .error (.failure failure)

theorem launch_eq [Json.Nesting] (words : List String) : launch homes files exported words =
    (readOptions words).mapError .stop >>= launchWith homes files exported := rfl

/-- What has to go well for the program to serve. -/
theorem launch_eq_ok [Json.Nesting] : launch homes files exported words = .ok launched ↔
    ∃ options, readOptions words = .ok options ∧ launched.host = hostOf options exported ∧
      portOf options exported = .ok launched.port ∧
      settingsOf homes (sourcesOf files exported options) = .valid launched.settings := by
  rw [launch_eq]
  constructor
  · intro h
    obtain ⟨options, hoptions, h⟩ := Except.bind_eq_ok.mp h
    obtain ⟨port, hport, h⟩ := Except.bind_eq_ok.mp h
    refine ⟨options, Except.mapError_eq_ok.mp hoptions, ?_⟩
    split at h
    · next settings hload =>
      cases h
      exact ⟨rfl, hport, hload⟩
    · cases h
    · cases h
  · rintro ⟨options, hoptions, hhost, hport, hload⟩
    refine Except.bind_eq_ok.mpr ⟨options, Except.mapError_eq_ok.mpr hoptions, ?_⟩
    rw [launchWith, hport, hload, ← hhost]
    rfl

/-! ## The layer of the options -/

def flat (name : String) (given : Given String) : Layer :=
  if given.text.isEmpty then [] else [(name, .str given.text)]

theorem layer_eq (options : Options) : options.layer =
    flat "debrid_base_url" options.baseUrl ++ flat "log_level" options.logLevel ++
      flat "log_format" options.logFormat := rfl

theorem get?_flat (name other : String) (given : Given String) :
    Entries.get? (flat name given) other =
      if other = name ∧ given.text ≠ "" then some (.str given.text) else none := by
  unfold flat
  by_cases htext : given.text = ""
  · simp [htext, Entries.get?]
  · by_cases hname : other = name
    · simp [htext, hname, Entries.get?]
    · simp [htext, hname, Entries.get?, List.lookup_cons, beq_eq_false_iff_ne.mpr hname]

theorem get?_layer (options : Options) (name : String) : Entries.get? options.layer name =
    ((Entries.get? (flat "debrid_base_url" options.baseUrl) name).or
      (Entries.get? (flat "log_level" options.logLevel) name)).or
        (Entries.get? (flat "log_format" options.logFormat) name) := by
  rw [layer_eq, Entries.get?, List.lookup_append, List.lookup_append]
  rfl

theorem get?_layer_section (options : Options) {name : String} (h : name ∈ Layer.sections) :
    Entries.get? options.layer name = none := by
  have hapart : ∀ name ∈ Layer.sections,
      name ≠ "debrid_base_url" ∧ name ≠ "log_level" ∧ name ≠ "log_format" := by
    decide
  obtain ⟨hurl, hlevel, hformat⟩ := hapart name h
  simp [get?_layer, get?_flat, hurl, hlevel, hformat]

theorem distinct_layer (options : Options) : Layer.Distinct options.layer := by
  intro sectionName h
  rw [Layer.membersOf, get?_layer_section options h]
  exact .nil

/-- What stands under its flat name is given for a spot. -/
theorem given?_of_flat {spot : Spot} {layer : Layer} {name : String} {value : Json}
    (hname : spot.flatIn? Layer.flatNames = some name)
    (hvalue : Entries.get? layer name = some value) : spot.given? layer = some value := by
  rw [Spot.given?, hname, Option.bind_some, hvalue, Option.some_or]

def textFor (options : Options) : Setting → String
  | .baseUrl => options.baseUrl.text
  | .logLevel => options.logLevel.text
  | .logFormat => options.logFormat.text
  | _ => ""

theorem given?_layer {setting : Setting} (h : textFor options setting ≠ "") :
    setting.spot.given? options.layer = some (.str (textFor options setting)) := by
  cases setting with
  | baseUrl =>
    have htext : options.baseUrl.text ≠ "" := h
    exact given?_of_flat rfl (by simp [get?_layer, get?_flat, htext, textFor])
  | logLevel =>
    have htext : options.logLevel.text ≠ "" := h
    exact given?_of_flat rfl (by simp [get?_layer, get?_flat, htext, textFor])
  | logFormat =>
    have htext : options.logFormat.text ≠ "" := h
    exact given?_of_flat rfl (by simp [get?_layer, get?_flat, htext, textFor])
  | _ => exact absurd rfl h

/-- A text that the options hold is read for its setting. -/
theorem reads_of_options [Json.Nesting] {settings : Config.Settings}
    (hload : Config.load homes (sourcesOf files exported options) = .valid settings)
    {setting : Setting} {text : String} (htext : textFor options setting = text) (hne : text ≠ "") :
    setting.Reads homes (.str text) settings := by
  subst htext
  refine Config.PrecedenceLemmas.reads_of_option hload (distinct_layer options) ?_
    (given?_layer hne)
  rintro rfl
  exact hne rfl

theorem readWord_eq_ok {α : Type} {table : List (String × α)} {word : String} {meaning : α}
    (h : Config.readWord table (.str word) = .ok meaning) : table.lookup word = some meaning := by
  simp only [Config.readWord] at h
  split at h
  · next found hfound =>
    cases h
    exact hfound
  · cases h

theorem validateBase_of_reads {settings : Config.Settings} {url : String}
    (h : Setting.baseUrl.Reads homes (.str url) settings) :
    Url.validateBase url = .ok settings.service.baseUrl := by
  obtain ⟨text, htext, hurl⟩ := Checked.bind_eq_valid.mp h
  cases htext
  split at hurl
  · next normal hnormal =>
    cases hurl
    exact hnormal
  · cases hurl

theorem lookup_of_reads_format {settings : Config.Settings} {word : String}
    (h : Setting.logFormat.Reads homes (.str word) settings) :
    Config.logFormats.lookup word = some settings.logFormat := by
  obtain ⟨format, hformat, heffective⟩ := h
  obtain ⟨found, hfound, rfl⟩ := Checked.map_eq_valid.mp hformat
  rw [heffective]
  exact readWord_eq_ok (Checked.ofExcept_eq_valid.mp hfound)

/-! ## Host and port -/

theorem value_of_reads {given : Given Int} {text : String} (h : given.Reads (.value text)) :
    ∃ n, given = .value n ∧ Text.readInteger text = .ok n := by
  cases given with
  | value n => exact ⟨n, rfl, h⟩
  | _ => cases h

theorem hostOf_eq_iff {host : String} (h : options.host = .value host) :
    hostOf options exported = host ↔ host ≠ "" ∨ exported.lookup "HOST" = some "" := by
  unfold hostOf
  rw [h, Given.text]
  split
  · cases exported.lookup "HOST" <;> simp
  · next hne => exact ⟨fun _ => .inl hne, fun _ => rfl⟩

theorem portOf_eq_iff {n port : Int} (h : options.port = .value n)
    (hport : portOf options exported = .ok port) :
    port = n ↔ n ≠ 0 ∨ Text.readInteger ((exported.lookup "PORT").getD "7980") = .ok 0 := by
  simp only [portOf, h] at hport
  split at hport
  · next hzero =>
    subst hzero
    rw [Except.mapError_eq_ok.mp hport]
    simp
  · next hne =>
    cases hport
    simp [hne]

end LaunchLemmas

open LaunchLemmas OptionLemmas

/-- When the program comes to serve, the last value that the command line gives for an option has
the say, whatever variables and files are like. Port and host are exempt if the value is zero or
empty: then they are that value only if the variables say the same. The base URL is exempt if the
value is empty; level and format of the log never are. -/
theorem given_option_wins_iff [Json.Nesting] {homes : Config.Homes} {files : Files}
    {exported : Config.Variables} {words : List String} {launched : Launch}
    (h : launch homes files exported words = .ok launched) :
    (∀ text, said .port words = .value text → ∃ n, Text.readInteger text = .ok n ∧
      (launched.port = n ↔
        n ≠ 0 ∨ Text.readInteger ((exported.lookup "PORT").getD "7980") = .ok 0)) ∧
    (∀ host, said .host words = .value host →
      (launched.host = host ↔ host ≠ "" ∨ exported.lookup "HOST" = some "")) ∧
    (∀ url, said .baseUrl words = .value url →
      (Url.validateBase url = .ok launched.settings.service.baseUrl ↔ url ≠ "")) ∧
    (∀ word, said .logLevel words = .value word →
      Config.logLevels.lookup word = some launched.settings.logLevel) ∧
    ∀ word, said .logFormat words = .value word →
      Config.logFormats.lookup word = some launched.settings.logFormat := by
  obtain ⟨options, hoptions, hhost, hport, hload⟩ := launch_eq_ok.mp h
  have hholds := holds_of_readOptions hoptions
  refine ⟨fun text htext => ?_, fun host hsaid => ?_, fun url hurl => ?_, fun word hword => ?_,
    fun word hword => ?_⟩
  · obtain ⟨n, hheld, hn⟩ := value_of_reads (htext ▸ hholds .port)
    exact ⟨n, hn, portOf_eq_iff hheld hport⟩
  · have hheld : options.host = .value host := (hholds .host).trans hsaid
    rw [hhost]
    exact hostOf_eq_iff hheld
  · have hheld : options.baseUrl = .value url := (hholds .baseUrl).trans hurl
    have htext : textFor options .baseUrl = url := congrArg Given.text hheld
    constructor
    · rintro hvalid rfl
      cases hvalid
    · exact fun hne => validateBase_of_reads (reads_of_options hload htext hne)
  · obtain ⟨hheld, hne⟩ := hword ▸ hholds .logLevel
    have htext : textFor options .logLevel = word := congrArg Given.text hheld
    exact readWord_eq_ok (reads_of_options hload htext fun hempty => hne (hempty ▸ rfl))
  · obtain ⟨hheld, hne⟩ := hword ▸ hholds .logFormat
    have htext : textFor options .logFormat = word := congrArg Given.text hheld
    exact lookup_of_reads_format (reads_of_options hload htext fun hempty => hne (hempty ▸ rfl))

def noFiles : Files := ⟨[], [], fun _ => false⟩

/-- A command line with every option that overrides a variable. -/
def proxyWords : List String := ["--port", "9000", "--host=127.0.0.1", "--base-url",
  "http://proxy:8080/", "--log-level", "DEBUG", "--log-format", "json"]

/-- Variables that say something else. -/
def rivalVariables : Config.Variables := [("HOST", "10.0.0.1"), ("PORT", "8000"),
  ("DEBRIDSTREAM_DEBRID_BASE_URL", "http://rival"), ("DEBRIDSTREAM_LOG_LEVEL", "ERROR")]

/-- What the program serves with. -/
def proxyLaunch : Launch where
  host := "127.0.0.1"
  port := 9000
  settings :=
    { appName := "debridstream"
      environment := .dev
      service := { Config.defaultService with baseUrl := "http://proxy:8080" }
      cache := Config.defaultCache
      logLevel := .debug
      logFormat := .json }

attribute [local instance] Json.Nesting.usual

/-- The command line has the say. -/
theorem given_option_wins_iff_over_variables :
    launch Config.plainHomes noFiles rivalVariables proxyWords = .ok proxyLaunch ∧
      said .port proxyWords = .value "9000" ∧ said .host proxyWords = .value "127.0.0.1" ∧
      said .baseUrl proxyWords = .value "http://proxy:8080/" ∧
      said .logLevel proxyWords = .value "DEBUG" ∧ said .logFormat proxyWords = .value "json" ∧
      proxyLaunch.port = 9000 ∧ proxyLaunch.host = "127.0.0.1" ∧
      Url.validateBase "http://proxy:8080/" = .ok proxyLaunch.settings.service.baseUrl ∧
      Config.logLevels.lookup "DEBUG" = some proxyLaunch.settings.logLevel ∧
      Config.logFormats.lookup "json" = some proxyLaunch.settings.logFormat := by
  have hlaunch : launch Config.plainHomes noFiles rivalVariables proxyWords = .ok proxyLaunch :=
    Except.toOption_eq_some.mp (by decide +kernel)
  have hport : said .port proxyWords = .value "9000" := by decide +kernel
  have hhost : said .host proxyWords = .value "127.0.0.1" := by decide +kernel
  have hurl : said .baseUrl proxyWords = .value "http://proxy:8080/" := by decide +kernel
  have hlevel : said .logLevel proxyWords = .value "DEBUG" := by decide +kernel
  have hformat : said .logFormat proxyWords = .value "json" := by decide +kernel
  obtain ⟨ports, hosts, urls, levels, formats⟩ := given_option_wins_iff hlaunch
  obtain ⟨n, hn, hsame⟩ := ports _ hport
  cases hn
  exact ⟨hlaunch, hport, hhost, hurl, hlevel, hformat, hsame.mpr (.inl (by decide)),
    (hosts _ hhost).mpr (.inl (by decide)), (urls _ hurl).mpr (by decide), levels _ hlevel,
    formats _ hformat⟩

/-- The port is given as zero, and the variable decides it. -/
theorem zero_is_overruled_by_variable :
    ∃ launched,
      launch Config.plainHomes noFiles [("PORT", "9000")] ["--port", "0"] = .ok launched ∧
        said .port ["--port", "0"] = .value "0" ∧ Text.readInteger "0" = .ok 0 ∧
        launched.port ≠ 0 := by
  have hport : (launch Config.plainHomes noFiles [("PORT", "9000")] ["--port", "0"]).toOption.map
      Launch.port = some 9000 := by decide +kernel
  obtain ⟨launched, hlaunched, hport⟩ := Option.map_eq_some_iff.mp hport
  refine ⟨launched, Except.toOption_eq_some.mp hlaunched, by decide +kernel, rfl, ?_⟩
  rw [hport]
  decide

end MagnetStream.CommandLine
