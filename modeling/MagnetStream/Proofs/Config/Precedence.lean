import MagnetStream.Proofs.Config.Setting

/-!
# Which layer decides

The highest layer that gives a setting decides it, be it given flat or in a section, and whatever is
said about other settings (`highest_layer_decides`). The directory of the cache is different, since
the layers are merged before its two spots are told apart: it goes by the highest layer that has its
long name, and only if none does by the highest one that gives it otherwise (`long_name_decides`).
-/

namespace MagnetStream.Config

/-- In the sections of the file and of the options, no name stands twice, as in every mapping. -/
def Sources.Distinct (sources : Sources) : Prop :=
  sources.options.Distinct ∧ ∀ file, sources.fileLayer = .ok file → Layer.Distinct file

/-- What variables say about a setting. -/
def Setting.entry [Json.Nesting] (homes : Homes) (vars : Variables) (setting : Setting) :
    Checked (Option (String × Json)) :=
  match setting with
  | .appName | .baseUrl | .redisUrl => vars.textEntry setting.name
  | .environment => vars.wordEntry environments setting.name
  | .timeout | .pollInterval => vars.floatEntry setting.name
  | .cacheAge | .pollBudget | .maxConcurrent => vars.intEntry setting.name
  | .extraHeaders => vars.listEntry setting.name
  | .backend => vars.wordEntry backends setting.name
  | .directory => vars.directoryEntry homes setting.name
  | .logLevel => vars.wordEntry logLevels setting.name
  | .logFormat => vars.wordEntry logFormats setting.name

/-- All settings, in the order in which variables are read. -/
def Setting.all : List Setting := [.appName, .environment, .baseUrl, .timeout, .cacheAge,
  .extraHeaders, .pollBudget, .pollInterval, .backend, .directory, .redisUrl, .maxConcurrent,
  .logLevel, .logFormat]

namespace PrecedenceLemmas

/-! ## The layer of the variables -/

section Reading

variable {homes : Homes} {vars : Variables} {layer : Layer}

theorem layer_eq [Json.Nesting] (homes : Homes) (vars : Variables) :
    vars.layer homes = Variables.readEntries (Setting.all.map (Setting.entry homes vars)) := rfl

theorem name_of_entry {α : Type} {name : String} {read : String → Checked α} {write : α → Json}
    {found : String × Json} (h : vars.entry name read write = .valid (some found)) :
    found.1 = name := by
  unfold Variables.entry at h
  split at h
  · cases h
  · obtain ⟨value, _, hfound⟩ := Checked.map_eq_valid.mp h
    exact congrArg Prod.fst (Option.some.inj hfound).symm

theorem name_of_listEntry [Json.Nesting] {name : String} {found : String × Json}
    (h : vars.listEntry name = .valid (some found)) : found.1 = name := by
  unfold Variables.listEntry at h
  split at h
  · cases h
  · split at h
    · cases h
    · obtain ⟨value, _, hfound⟩ := Checked.map_eq_valid.mp h
      exact congrArg Prod.fst (Option.some.inj hfound).symm
    · cases h
    · cases h

/-- What variables say about a setting stands under its name. -/
theorem name_of_setting [Json.Nesting] {setting : Setting} {found : String × Json}
    (h : setting.entry homes vars = .valid (some found)) : found.1 = setting.name := by
  cases setting with
  | extraHeaders => exact name_of_listEntry h
  | _ => exact name_of_entry h

/-- Entries that are read one after the other stand in the layer under their names, and nothing else
does. -/
theorem readEntries_gives [Json.Nesting] {settings : List Setting}
    (hnames : (settings.map Setting.name).Nodup)
    (h : Variables.readEntries (settings.map (Setting.entry homes vars)) = .valid layer) :
    (∀ name ∈ Entries.names layer, name ∈ settings.map Setting.name) ∧
      ∀ setting ∈ settings, setting.entry homes vars =
        .valid ((Entries.get? layer setting.name).map (setting.name, ·)) := by
  induction settings generalizing layer with
  | nil =>
    cases h
    exact ⟨fun _ hm => absurd hm List.not_mem_nil, fun _ hm => absurd hm List.not_mem_nil⟩
  | cons first others ih =>
    obtain ⟨hfirst, hothers⟩ := List.nodup_cons.mp hnames
    obtain ⟨_, rest, hone, hrest, rfl⟩ := Checked.seq_eq_valid.mp h
    obtain ⟨found, hfound, rfl⟩ := Checked.map_eq_valid.mp hone
    obtain ⟨hinside, hgives⟩ := ih hothers hrest
    -- Names differ, so the first entry and the others do not hide each other.
    have hmissing : Entries.get? rest first.name = none :=
      Entries.get?_eq_none fun hm => hfirst (hinside _ hm)
    cases found with
    | none =>
      refine ⟨fun name hm => List.mem_cons_of_mem _ (hinside name hm), fun setting hm => ?_⟩
      rcases List.mem_cons.mp hm with rfl | hm
      · rw [hfound]
        show _ = Checked.valid ((Entries.get? rest setting.name).map _)
        rw [hmissing]
        rfl
      · exact hgives setting hm
    | some found =>
      obtain ⟨name, value⟩ := found
      have hname : name = first.name := name_of_setting hfound
      subst hname
      refine ⟨fun name hm => ?_, fun setting hm => ?_⟩
      · rcases List.mem_cons.mp hm with rfl | hm
        · exact List.mem_cons_self
        · exact List.mem_cons_of_mem _ (hinside name hm)
      · rcases List.mem_cons.mp hm with rfl | hm
        · rw [hfound]
          simp [Entries.get?]
        · have hne : setting.name ≠ first.name :=
            fun heq => hfirst (List.mem_map.mpr ⟨setting, hm, heq⟩)
          rw [hgives setting hm]
          simp [Entries.get?, List.lookup_cons, beq_eq_false_iff_ne.mpr hne]

theorem get?_section_of_layer [Json.Nesting] (h : vars.layer homes = .valid layer)
    {sectionName : String} (hsection : sectionName ∈ Layer.sections) :
    Entries.get? layer sectionName = none := by
  rw [layer_eq] at h
  refine Entries.get?_eq_none fun hm => ?_
  have hapart : ∀ name ∈ Layer.sections, name ∉ Setting.all.map Setting.name := by decide
  exact hapart sectionName hsection ((readEntries_gives (by decide) h).1 sectionName hm)

theorem distinct_of_layer [Json.Nesting] (h : vars.layer homes = .valid layer) :
    layer.Distinct := by
  intro sectionName hsection
  rw [Layer.membersOf, get?_section_of_layer h hsection]
  exact .nil

theorem mem_all (setting : Setting) : setting ∈ Setting.all := by
  cases setting <;> decide

/-- The layer of the variables gives what the variable of each setting says. -/
theorem entry_of_layer [Json.Nesting] (h : vars.layer homes = .valid layer) (setting : Setting) :
    setting.entry homes vars =
      .valid ((setting.spot.given? layer).map (setting.name, ·)) := by
  have hgiven : setting.spot.given? layer = Entries.get? layer setting.name := by
    have hdebrid := get?_section_of_layer h (show "debrid" ∈ Layer.sections by decide)
    have hcache := get?_section_of_layer h (show "cache" ∈ Layer.sections by decide)
    have hlogging := get?_section_of_layer h (show "logging" ∈ Layer.sections by decide)
    cases setting <;>
      simp [Spot.given?, Spot.flatIn?, Setting.spot, Setting.name, Layer.flatNames, Spot.find?,
        hdebrid, hcache, hlogging]
  rw [layer_eq] at h
  rw [hgiven]
  exact (readEntries_gives (by decide) h).2 setting (mem_all setting)

end Reading

/-! ## All layers -/

section Merging

variable {homes : Homes} {sources : Sources} {settings : Settings} {file vars options : Layer}

/-- Layers that load. -/
theorem layers_of_load [Json.Nesting] (h : load homes sources = .valid settings) :
    ∃ vars file layer, sources.allVariables = .ok vars ∧ sources.fileLayer = .ok file ∧
      vars.layer homes = .valid layer ∧
        readSettings homes (.obj (merged file layer sources.options)) = .valid settings := by
  unfold load at h
  split at h
  · cases h
  · next vars hvars =>
    split at h
    · cases h
    · next file hfile =>
      obtain ⟨layer, hlayer, hread⟩ := Checked.bind_eq_valid.mp h
      exact ⟨vars, file, layer, hvars, hfile, hlayer, hread⟩

/-- No name stands twice in a section of the layers that are laid over the defaults. -/
theorem distinct_layers [Json.Nesting] {vars : Variables} {layer : Layer}
    (hdistinct : sources.Distinct) (hfile : sources.fileLayer = .ok file)
    (hlayer : vars.layer homes = .valid layer) :
    ∀ other ∈ [file, layer, sources.options], Layer.Distinct other := by
  simp [hdistinct.1, hdistinct.2 file hfile, distinct_of_layer hlayer]

section Distinct

variable (h : ∀ layer ∈ [file, vars, options], Layer.Distinct layer)
include h

/-- The highest layer that gives something decides what stands in the merged layers. -/
theorem decides_merged {spot : Spot} (hspot : spot.Known) :
    Layer.Decides ([options, vars, file, Layer.defaults].findSome? spot.given?)
      (spot.find? (merged file vars options)) := by
  have hall := Layer.decides_foldl h hspot (Layer.normalize Layer.defaults)
  rw [Layer.find?_normalize _ hspot] at hall
  have hlist : [options, vars, file, Layer.defaults].findSome? spot.given? =
      ([file, vars, options].reverse.findSome? spot.given?).or (spot.given? Layer.defaults) := by
    show ([options, vars, file] ++ [Layer.defaults]).findSome? spot.given? = _
    rw [List.findSome?_append, List.findSome?_singleton]
    rfl
  exact hlist ▸ hall

theorem get?_merged_of_unknown {name : String} (hsection : name ∉ Layer.sections)
    (htop : name ∉ Layer.topNames) : Entries.get? (merged file vars options) name = none :=
  Layer.get?_foldl_of_unknown h hsection htop (Layer.get?_normalize_of_unknown hsection htop)

end Distinct

/-- The defaults give every setting, so some layer does. -/
theorem isSome_given (setting : Setting) {layers : List Layer} (h : Layer.defaults ∈ layers) :
    (layers.findSome? setting.spot.given?).isSome := by
  have hdefaults : (setting.spot.given? Layer.defaults).isSome := by cases setting <;> rfl
  exact List.findSome?_isSome_iff.mpr ⟨Layer.defaults, h, hdefaults⟩

/-- What the options give decides, whatever the layers below are like. -/
theorem reads_of_option [Json.Nesting] (h : load homes sources = .valid settings)
    (hdistinct : sources.options.Distinct) {setting : Setting} (hsetting : setting ≠ .directory)
    {value : Json} (hgiven : setting.spot.given? sources.options = some value) :
    setting.Reads homes value settings := by
  obtain ⟨_, file, layer, _, _, _, hread⟩ := layers_of_load h
  have hunknown : ∀ {name : String}, name ∉ Layer.sections → name ∉ Layer.topNames →
      Entries.get? (merged file layer sources.options) name = none := fun hsection htop =>
    Layer.get?_coveredBy_of_unknown hsection htop (Layer.get?_coveredBy_of_unknown hsection htop
      (Layer.get?_coveredBy_of_unknown hsection htop
        (Layer.get?_normalize_of_unknown hsection htop)))
  have hdecides : Layer.Decides (some value)
      (setting.spot.find? (merged file layer sources.options)) := by
    have hor := Layer.decides_coveredBy hdistinct setting.known_spot
      (((Layer.normalize Layer.defaults).coveredBy file).coveredBy layer)
    rwa [hgiven, Option.some_or] at hor
  obtain ⟨found, hfound⟩ := Option.isSome_iff_exists.mp hdecides.isSome
  have hreads : setting.Reads homes found settings :=
    reads_of_readSettings hread (hunknown (by decide) (by decide))
      (hunknown (by decide) (by decide)) hsetting hfound
  cases hdecides.eq_some found hfound hreads.ne_obj
  exact hreads

/-- What stands at the long spot of the directory has no flat name. -/
theorem given?_longDirectory : longDirectory.given? = longDirectory.find? := rfl

end Merging
end PrecedenceLemmas

open PrecedenceLemmas

/-- When settings load, each of them but the directory of the cache is what is read of the value
that the highest layer gives: the options, or else the variables, the file and the defaults. What
the variables give is what the variable of the setting says. A log format that is null is the JSON
one just where the program runs in production. -/
theorem highest_layer_decides [Json.Nesting] {homes : Homes} {sources : Sources}
    {settings : Settings} (h : load homes sources = .valid settings)
    (hdistinct : sources.Distinct) :
    ∃ vars file layer, sources.allVariables = .ok vars ∧ sources.fileLayer = .ok file ∧
      vars.layer homes = .valid layer ∧
      (∀ setting : Setting, setting.entry homes vars =
        .valid ((setting.spot.given? layer).map (setting.name, ·))) ∧
      (∀ setting : Setting, setting ≠ .directory → ∃ value,
        [sources.options, layer, file, Layer.defaults].findSome? setting.spot.given? = some value ∧
          setting.Reads homes value settings) ∧
      ([sources.options, layer, file, Layer.defaults].findSome? Setting.logFormat.spot.given? =
          some .null →
        settings.logFormat = if settings.environment = .prod then .json else .console) := by
  obtain ⟨vars, file, layer, hvars, hfile, hlayer, hread⟩ := layers_of_load h
  have hlayers := distinct_layers hdistinct hfile hlayer
  have hdecides : ∀ setting : Setting, setting ≠ .directory → ∃ value,
      [sources.options, layer, file, Layer.defaults].findSome? setting.spot.given? = some value ∧
        setting.Reads homes value settings := by
    intro setting hsetting
    have hdecides := decides_merged hlayers setting.known_spot
    have hsome : (setting.spot.find? (merged file layer sources.options)).isSome :=
      hdecides.isSome.trans (isSome_given setting (by simp))
    obtain ⟨value, hvalue⟩ := Option.isSome_iff_exists.mp hsome
    have hreads : setting.Reads homes value settings :=
      reads_of_readSettings hread (get?_merged_of_unknown hlayers (by decide) (by decide))
        (get?_merged_of_unknown hlayers (by decide) (by decide)) hsetting hvalue
    exact ⟨value, hdecides.eq_some value hvalue hreads.ne_obj, hreads⟩
  refine ⟨vars, file, layer, hvars, hfile, hlayer, entry_of_layer hlayer, hdecides, fun hnull => ?_⟩
  obtain ⟨value, hvalue, format, hformat, heffective⟩ := hdecides .logFormat (by decide)
  rw [hnull, Option.some.injEq] at hvalue
  subst hvalue
  cases hformat
  rw [heffective, Option.getD_none]
  cases settings.environment <;> rfl

/-- A machine with one user. -/
def plainHomes : Homes := ⟨"/home/me", []⟩

/-- A file that says something about production. -/
def productionFile : Layer := [("environment", .str "prod"), ("log_format", .null),
  ("debrid", .obj [("poll_budget", .int 7), ("timeout_seconds", .int 3)])]

/-- A file, a variable and an option, which speak of the poll budget two times. -/
def productionSources : Sources where
  file := .found "config.yaml" (.obj productionFile)
  variablesFile := .none
  exported := [("DEBRIDSTREAM_DEBRID_POLL_BUDGET", "9")]
  options := [("log_level", .str "DEBUG")]

def productionSettings : Settings where
  appName := "debridstream"
  environment := .prod
  service := { defaultService with timeout := .ofNat 3, pollBudget := 9 }
  cache := defaultCache
  logLevel := .debug
  logFormat := .json

attribute [local instance] Json.Nesting.usual

/-- The poll budget is that of the variable. -/
theorem highest_layer_decides_poll_budget :
    load plainHomes productionSources = .valid productionSettings ∧
      productionSources.Distinct ∧
      [productionSources.options, [("debrid_poll_budget", .int 9)], productionFile,
        Layer.defaults].findSome? Setting.pollBudget.spot.given? = some (.int 9) ∧
      Setting.pollBudget.Reads plainHomes (.int 9) productionSettings := by
  have hload : load plainHomes productionSources = .valid productionSettings := rfl
  have hdistinct : productionSources.Distinct := by
    refine ⟨by decide, fun file hfile => ?_⟩
    cases hfile
    decide
  obtain ⟨vars, file, layer, hvars, hfile, hlayer, _, hdecides, _⟩ :=
    highest_layer_decides hload hdistinct
  obtain ⟨value, hvalue, hreads⟩ := hdecides .pollBudget (by decide)
  cases hvars
  cases hfile
  cases hlayer
  cases hvalue
  exact ⟨hload, hdistinct, rfl, hreads⟩

/-- When settings load, the directory of the cache is what is read of the value at its long name
that the highest layer has, or else of the value that the highest layer gives otherwise. -/
theorem long_name_decides [Json.Nesting] {homes : Homes} {sources : Sources} {settings : Settings}
    (h : load homes sources = .valid settings) (hdistinct : sources.Distinct) :
    ∃ vars file layer, sources.allVariables = .ok vars ∧ sources.fileLayer = .ok file ∧
      vars.layer homes = .valid layer ∧ ∃ value,
        ([sources.options, file].findSome? longDirectory.find?).or
            ([sources.options, layer, file, Layer.defaults].findSome?
              Setting.directory.spot.given?) = some value ∧
          readDirectory homes value = .valid settings.cache.directory := by
  obtain ⟨vars, file, layer, hvars, hfile, hlayer, hread⟩ := layers_of_load h
  have hlayers := distinct_layers hdistinct hfile hlayer
  have hshort := decides_merged hlayers Setting.directory.known_spot
  have hlong := decides_merged hlayers (show longDirectory.Known from by decide)
  -- Neither the variables nor the defaults have the long name.
  have hlayer' : longDirectory.find? layer = none := by
    rw [longDirectory, Spot.find?_inside, get?_section_of_layer hlayer (by decide)]
    rfl
  have hdefaults : longDirectory.find? Layer.defaults = none := rfl
  have hlist : [sources.options, layer, file, Layer.defaults].findSome? longDirectory.given? =
      [sources.options, file].findSome? longDirectory.find? := by
    simp [given?_longDirectory, List.findSome?_cons, hlayer', hdefaults]
  rw [hlist] at hlong
  have hsome : ((longDirectory.find? (merged file layer sources.options)).or
      (Setting.directory.spot.find? (merged file layer sources.options))).isSome := by
    rw [Option.isSome_or, hshort.isSome, isSome_given .directory (by simp), Bool.or_true]
  obtain ⟨value, hvalue⟩ := Option.isSome_iff_exists.mp hsome
  have hreads : Setting.directory.Reads homes value settings :=
    directory_of_readSettings hread hvalue
  refine ⟨vars, file, layer, hvars, hfile, hlayer, value, ?_, hreads⟩
  rcases Option.or_eq_some_iff.mp hvalue with hfound | ⟨hnone, hfound⟩
  · rw [hlong.eq_some value hfound hreads.ne_obj, Option.some_or]
  · have hmissing : [sources.options, file].findSome? longDirectory.find? = none := by
      rw [← Option.not_isSome_iff_eq_none, ← hlong.isSome, hnone]
      exact Bool.false_ne_true
    rw [hmissing, Option.none_or]
    exact hshort.eq_some value hfound hreads.ne_obj

/-- A file and a variable that name different directories, the file by its long name. -/
def rivalSources : Sources where
  file := .found "config.yaml" (.obj [("cache", .obj [("directory", .str "/from/file")])])
  variablesFile := .none
  exported := [("DEBRIDSTREAM_CACHE_DIR", "/from/env")]
  options := []

def rivalSettings : Settings where
  appName := "debridstream"
  environment := .dev
  service := defaultService
  cache := { defaultCache with directory := "/from/file" }
  logLevel := .info
  logFormat := .console

/-- The directory is that of the file. -/
theorem long_name_decides_over_variable :
    load plainHomes rivalSources = .valid rivalSettings ∧ rivalSources.Distinct ∧
      readDirectory plainHomes (.str "/from/file") = .valid rivalSettings.cache.directory := by
  have hload : load plainHomes rivalSources = .valid rivalSettings := rfl
  have hdistinct : rivalSources.Distinct := by
    refine ⟨by decide, fun file hfile => ?_⟩
    cases hfile
    decide
  obtain ⟨vars, file, layer, _, hfile, _, value, hvalue, hread⟩ :=
    long_name_decides hload hdistinct
  cases hfile
  cases hvalue
  exact ⟨hload, hdistinct, hread⟩

/-- What a layer says about the directory of the cache, flat or by either name in its section. -/
def directoryIn? (layer : Layer) : Option Json :=
  (Entries.get? layer Setting.directory.name).or
    ((longDirectory.find? layer).or (Setting.directory.spot.find? layer))

/-- The highest layer does not decide the directory, although it is the variable that says something
about it. -/
theorem variable_is_overruled_by_file :
    ∃ file layer settings, rivalSources.fileLayer = .ok file ∧
      rivalSources.exported.layer plainHomes = .valid layer ∧
      load plainHomes rivalSources = .valid settings ∧
      [rivalSources.options, layer, file, Layer.defaults].findSome? directoryIn? =
        some (.str "/from/env") ∧
      readDirectory plainHomes (.str "/from/env") = .valid "/from/env" ∧
      settings.cache.directory ≠ "/from/env" :=
  ⟨_, [("cache_dir", .str "/from/env")], rivalSettings, rfl, rfl, rfl, rfl, rfl, by decide⟩

end MagnetStream.Config
