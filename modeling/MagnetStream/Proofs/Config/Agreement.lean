import MagnetStream.Proofs.Config.Directory
import MagnetStream.Proofs.Config.Precedence

/-!
# The same text in every layer

A text means the same whether a variable, the file or an option gives it, but for a directory that
is not the same when it is read twice (`same_text_same_settings`). File and options come to the same
layer in normal form. What a variable gives is read, and written in a form that is read again: a
number as what it is (`reads_of_entry`), a directory as its shortest text
(`load_directory_inVariable`). All settings are read from such layers just when each one is read at
its spot (`readSettings_alone`).
-/

namespace MagnetStream.Config

/-- The layer in normal form that holds a value at a spot and nothing else. -/
def Spot.only (value : Json) : Spot → Layer
  | top name => [(name, value)]
  | inside sectionName name => [(sectionName, .obj [(name, value)])]

namespace Setting

/-- The usual name of the variable of a setting, in capitals. -/
def variableName (setting : Setting) : String :=
  "DEBRIDSTREAM_" ++ String.ofList (setting.name.toList.map Char.toUpper)

/-- Only the variable of a setting is set. -/
def inVariable (setting : Setting) (text : String) : Sources where
  file := .none
  variablesFile := .none
  exported := [(setting.variableName, text)]
  options := []

/-- Only the file says something about a setting, at its spot. -/
def inFile (setting : Setting) (text : String) : Sources where
  file := .found "config.yaml" (.obj (setting.spot.only (.str text)))
  variablesFile := .none
  exported := []
  options := []

/-- Only the options say something about a setting, by its name. -/
def inOptions (setting : Setting) (text : String) : Sources where
  file := .none
  variablesFile := .none
  exported := []
  options := [(setting.name, .str text)]

end Setting

/-- The usual settings with a directory of its own for the cache. -/
def settingsIn (directory : String) : Settings where
  appName := "debridstream"
  environment := .dev
  service := defaultService
  cache := { defaultCache with directory }
  logLevel := .info
  logFormat := .console

namespace AgreementLemmas

variable {homes : Homes} {setting : Setting} {text : String} {settings : Settings}

/-! ## Settings that only one layer speaks of -/

/-- The defaults with a value of one setting laid over them. -/
def alone (setting : Setting) (value : Json) : Layer :=
  (Layer.normalize Layer.defaults).coveredBy (setting.spot.only value)

theorem normalize_flat (setting : Setting) (value : Json) :
    Layer.normalize [(setting.name, value)] = setting.spot.only value := by
  cases setting <;> rfl

theorem normalize_only (setting : Setting) (value : Json) :
    Layer.normalize (setting.spot.only value) = setting.spot.only value := by
  cases setting <;> rfl

theorem coveredBy_flat (setting : Setting) (value : Json) (below : Layer) :
    below.coveredBy [(setting.name, value)] = below.coveredBy (setting.spot.only value) := by
  rw [Layer.coveredBy, Layer.coveredBy, normalize_flat, normalize_only]

theorem load_inFile [Json.Nesting] : load homes (setting.inFile text) =
    readSettings homes (.obj (alone setting (.str text))) := rfl

theorem load_inOptions [Json.Nesting] : load homes (setting.inOptions text) =
    readSettings homes (.obj (alone setting (.str text))) := by
  rw [alone, ← coveredBy_flat]
  rfl

theorem get?_single (name other : String) (value : Json) :
    Entries.get? [(name, value)] other = if other = name then some value else none := by
  rw [Entries.get?, List.lookup_cons]
  by_cases h : other = name
  · simp [h]
  · simp [h, beq_eq_false_iff_ne.mpr h]

/-- A layer that holds a value at one spot holds nothing at any other one. -/
theorem find?_only {spot other : Spot} (hspot : spot.Known) (hother : other.Known) (value : Json) :
    other.find? (spot.only value) = if other = spot then some value else none := by
  cases spot with
  | top name =>
    cases other with
    | top otherName => simpa [Spot.find?, Spot.only] using get?_single name otherName value
    | inside otherSection otherName =>
      have hne : otherSection ≠ name := (Layer.topNames_ne hspot hother).symm
      have hspots : Spot.inside otherSection otherName ≠ .top name := by rintro ⟨⟩
      rw [Spot.find?_inside, Spot.only, get?_single, if_neg hne, if_neg hspots]
      rfl
  | inside sectionName name =>
    cases other with
    | top otherName =>
      have hne : otherName ≠ sectionName := Layer.topNames_ne hother hspot
      have hspots : Spot.top otherName ≠ .inside sectionName name := by rintro ⟨⟩
      rw [Spot.find?, Spot.only, get?_single, if_neg hne, if_neg hspots]
    | inside otherSection otherName =>
      rw [Spot.find?_inside, Spot.only, get?_single]
      by_cases hsection : otherSection = sectionName
      · rw [if_pos hsection, Option.bind_some, Json.member?, get?_single]
        simp [hsection]
      · rw [if_neg hsection, if_neg (by simp [hsection])]
        rfl

theorem distinct_only (spot : Spot) (value : Json) (hspot : spot.Known) :
    (spot.only value).Distinct := by
  intro sectionName hsection
  cases spot with
  | top name =>
    have hne : sectionName ≠ name := (Layer.topNames_ne hspot hsection).symm
    rw [Layer.membersOf, Spot.only, get?_single, if_neg hne]
    exact .nil
  | inside other name =>
    rw [Layer.membersOf, Spot.only, get?_single]
    split
    · next heq =>
      split at heq
      · cases heq
        exact List.nodup_cons.mpr ⟨List.not_mem_nil, .nil⟩
      · cases heq
    · exact .nil

theorem spot_inj {other : Setting} : other.spot = setting.spot ↔ other = setting := by
  have hspots : ∀ first ∈ Setting.all, ∀ second ∈ Setting.all, first.spot = second.spot →
      first = second := by
    decide
  exact ⟨hspots other (PrecedenceLemmas.mem_all other) setting (PrecedenceLemmas.mem_all setting),
    fun h => h ▸ rfl⟩

/-- What stands at a spot of the defaults once a plain value of one setting is laid over them. -/
theorem find?_alone {spot : Spot} (hspot : spot.Known) {value : Json}
    (hplain : ∀ members, value ≠ .obj members) :
    spot.find? (alone setting value) =
      if spot = setting.spot then some value else spot.given? Layer.defaults := by
  have hgiven : spot.given? (setting.spot.only value) =
      if spot = setting.spot then some value else none := by
    rw [← Layer.find?_normalize _ hspot, normalize_only, find?_only setting.known_spot hspot]
  rw [alone, Layer.find?_coveredBy (distinct_only _ _ setting.known_spot) hspot, hgiven,
    Layer.find?_normalize _ hspot]
  by_cases h : spot = setting.spot
  · simp only [if_pos h, Json.atop_of_isPlain hplain]
  · simp only [if_neg h]

theorem get?_alone_of_unknown (setting : Setting) {name : String}
    (hsection : name ∉ Layer.sections) (htop : name ∉ Layer.topNames) (value : Json) :
    Entries.get? (alone setting value) name = none := by
  have hdistinct : ∀ layer ∈ [setting.spot.only value], Layer.Distinct layer := by
    intro layer hm
    rw [List.mem_singleton.mp hm]
    exact distinct_only _ _ setting.known_spot
  exact Layer.get?_foldl_of_unknown hdistinct hsection htop
    (Layer.get?_normalize_of_unknown hsection htop)

theorem longDirectory_alone {value : Json} (hplain : ∀ members, value ≠ .obj members) :
    longDirectory.find? (alone setting value) = none := by
  have hother : longDirectory ≠ setting.spot := by cases setting <;> decide
  rw [find?_alone (by decide) hplain, if_neg hother]
  rfl

/-- The value of a setting where only one layer speaks of one setting. -/
def valueWith (setting : Setting) (value : Json) (other : Setting) : Option Json :=
  if other = setting then some value else other.spot.given? Layer.defaults

/-- Settings are read from the defaults with a plain value laid over them just when each of them is
read at its spot. -/
theorem readSettings_alone {value : Json} (hplain : ∀ members, value ≠ .obj members) :
    readSettings homes (.obj (alone setting value)) = .valid settings ↔
      ∀ other : Setting, ∃ found, valueWith setting value other = some found ∧
        other.Reads homes found settings := by
  have hfind : ∀ other : Setting, other.spot.find? (alone setting value) =
      valueWith setting value other := by
    intro other
    rw [find?_alone other.known_spot hplain, valueWith]
    simp only [spot_inj]
  have hlevel := get?_alone_of_unknown setting (show "log_level" ∉ _ by decide) (by decide) value
  have hformat := get?_alone_of_unknown setting (show "log_format" ∉ _ by decide) (by decide) value
  constructor
  · intro h other
    have hsome : (valueWith setting value other).isSome := by
      unfold valueWith
      split
      · rfl
      · cases other <;> rfl
    obtain ⟨found, hfound⟩ := Option.isSome_iff_exists.mp hsome
    refine ⟨found, hfound, ?_⟩
    by_cases hdirectory : other = .directory
    · subst hdirectory
      refine directory_of_readSettings h ?_
      rw [longDirectory_alone hplain, Option.none_or, hfind, hfound]
    · exact reads_of_readSettings h hlevel hformat hdirectory ((hfind other).trans hfound)
  · intro h
    refine readSettings_of_reads hlevel hformat (longDirectory_alone hplain) fun other => ?_
    obtain ⟨found, hfound, hreads⟩ := h other
    exact ⟨found, (hfind other).trans hfound, hreads⟩

/-- Two plain values that read the same make the same settings. -/
theorem readSettings_congr {value value' : Json} (hplain : ∀ members, value ≠ .obj members)
    (hplain' : ∀ members, value' ≠ .obj members)
    (h : setting.Reads homes value settings ↔ setting.Reads homes value' settings) :
    readSettings homes (.obj (alone setting value)) = .valid settings ↔
      readSettings homes (.obj (alone setting value')) = .valid settings := by
  rw [readSettings_alone hplain, readSettings_alone hplain']
  refine forall_congr' fun other => ?_
  unfold valueWith
  by_cases hother : other = setting
  · subst hother
    simpa using h
  · simp only [if_neg hother]

/-! ## What a variable gives -/

section Entries

variable {vars : Variables}

theorem fold_variableName (setting : Setting) :
    Variables.fold setting.variableName = Variables.front ++ setting.name := by
  cases setting <;> decide +kernel

theorem name_inj {other : Setting} : other.name = setting.name ↔ other = setting := by
  have hnames : ∀ first ∈ Setting.all, ∀ second ∈ Setting.all, first.name = second.name →
      first = second := by
    decide
  exact ⟨hnames other (PrecedenceLemmas.mem_all other) setting (PrecedenceLemmas.mem_all setting),
    fun h => h ▸ rfl⟩

/-- The variable of a setting is the variable of no other one. -/
theorem setting?_single (setting other : Setting) (text : String) :
    Variables.setting? [(setting.variableName, text)] other.name =
      if other = setting then some text else none := by
  have hfold : (Variables.fold setting.variableName == Variables.front ++ other.name) =
      decide (other = setting) := by
    rw [Bool.eq_iff_iff, beq_iff_eq, decide_eq_true_iff, fold_variableName, String.append_right_inj,
      eq_comm, name_inj]
  simp only [Variables.setting?, List.reverse_singleton, List.find?_singleton, hfold,
    decide_eq_true_eq]
  split <;> rfl

theorem entry_of_missing [Json.Nesting] (h : vars.setting? setting.name = none) :
    setting.entry homes vars = .valid none := by
  cases setting <;>
    simp only [Setting.entry, Variables.textEntry, Variables.wordEntry, Variables.intEntry,
      Variables.floatEntry, Variables.directoryEntry, Variables.listEntry, Variables.entry, h]

theorem entry_eq_valid {α : Type} {name : String} {read : String → Checked α} {write : α → Json}
    {found : Option (String × Json)} (h : vars.setting? name = some text) :
    vars.entry name read write = .valid found ↔
      ∃ value, read text = .valid value ∧ some (name, write value) = found := by
  rw [Variables.entry, h]
  show (_ <$> (read text).under _) = _ ↔ _
  rw [Checked.map_eq_valid]
  simp only [Checked.under_eq_valid]

section Kinds

variable {name : String} {found : Option (String × Json)} (h : vars.setting? name = some text)
include h

theorem textEntry_eq_valid : vars.textEntry name = .valid found ↔
    some (name, Json.str text) = found := by
  simp [Variables.textEntry, entry_eq_valid h]

theorem wordEntry_eq_valid {α : Type} {words : List (String × α)} :
    vars.wordEntry words name = .valid found ↔
      (∃ meaning, readWord words (.str text) = .ok meaning) ∧
        some (name, Json.str text) = found := by
  simp [Variables.wordEntry, entry_eq_valid h, Checked.map_eq_valid, Checked.ofExcept_eq_valid]

theorem intEntry_eq_valid : vars.intEntry name = .valid found ↔
    ∃ n, readInt (.str text) = .ok n ∧ some (name, Json.int n) = found := by
  simp [Variables.intEntry, entry_eq_valid h, Checked.ofExcept_eq_valid, readInt]

theorem floatEntry_eq_valid : vars.floatEntry name = .valid found ↔
    ∃ x, readFloat (.str text) = .ok x ∧ some (name, Json.float x) = found := by
  simp [Variables.floatEntry, entry_eq_valid h, Checked.ofExcept_eq_valid, readFloat]

theorem directoryEntry_eq_valid : vars.directoryEntry homes name = .valid found ↔
    ∃ path, readDirectory homes (.str text) = .valid path ∧ some (name, Json.str path) = found := by
  simp [Variables.directoryEntry, entry_eq_valid h]

end Kinds

theorem readDirectory_eq_valid {path : String} :
    readDirectory homes (.str text) = .valid path ↔ normalPath homes text = .ok path := by
  constructor
  · intro h
    simp only [readDirectory] at h
    split at h
    · next found hfound =>
      cases h
      exact hfound
    · cases h
    · cases h
  · intro h
    simp only [readDirectory, h]

/-- What a variable gives is read like its text, unless it is a directory. -/
theorem reads_of_entry [Json.Nesting] (hlist : setting ≠ .extraHeaders)
    (hdirectory : setting ≠ .directory) (hvar : vars.setting? setting.name = some text)
    {found : Option (String × Json)} (h : setting.entry homes vars = .valid found) :
    ∃ value, found = some (setting.name, value) ∧ (∀ members, value ≠ .obj members) ∧
      ∀ settings,
        setting.Reads homes value settings ↔ setting.Reads homes (.str text) settings := by
  cases setting with
  | extraHeaders => exact absurd rfl hlist
  | appName | baseUrl | redisUrl =>
    obtain rfl := (textEntry_eq_valid hvar).mp h
    exact ⟨_, rfl, nofun, fun _ => .rfl⟩
  | environment | backend | logLevel | logFormat =>
    obtain ⟨_, rfl⟩ := (wordEntry_eq_valid hvar).mp h
    exact ⟨_, rfl, nofun, fun _ => .rfl⟩
  | cacheAge | pollBudget | maxConcurrent =>
    obtain ⟨n, hn, rfl⟩ := (intEntry_eq_valid hvar).mp h
    have hsame : readInt (.int n) = readInt (.str text) := hn.symm
    refine ⟨_, rfl, nofun, fun _ => ?_⟩
    simp only [Setting.Reads, readCacheAge, readPollBudget, hsame]
  | timeout | pollInterval =>
    obtain ⟨x, hx, rfl⟩ := (floatEntry_eq_valid hvar).mp h
    have hsame : readFloat (.float x) = readFloat (.str text) := hx.symm
    refine ⟨_, rfl, nofun, fun _ => ?_⟩
    simp only [Setting.Reads, readSeconds, hsame]
  | directory => exact absurd rfl hdirectory

/-- A text that can be read is taken from a variable. -/
theorem entry_of_reads [Json.Nesting] (hlist : setting ≠ .extraHeaders)
    (hvar : vars.setting? setting.name = some text)
    (h : setting.Reads homes (.str text) settings) :
    ∃ found, setting.entry homes vars = .valid found := by
  cases setting with
  | extraHeaders => exact absurd rfl hlist
  | appName | baseUrl | redisUrl => exact ⟨_, (textEntry_eq_valid hvar).mpr rfl⟩
  | environment | backend | logLevel => exact ⟨_, (wordEntry_eq_valid hvar).mpr ⟨⟨_, h⟩, rfl⟩⟩
  | logFormat =>
    obtain ⟨format, hformat, _⟩ := h
    obtain ⟨word, hword, _⟩ := Checked.map_eq_valid.mp hformat
    exact ⟨_, (wordEntry_eq_valid hvar).mpr ⟨⟨_, Checked.ofExcept_eq_valid.mp hword⟩, rfl⟩⟩
  | maxConcurrent => exact ⟨_, (intEntry_eq_valid hvar).mpr ⟨_, h, rfl⟩⟩
  | cacheAge | pollBudget =>
    obtain ⟨n, hn, _⟩ := Checked.bind_eq_valid.mp h
    exact ⟨_, (intEntry_eq_valid hvar).mpr ⟨_, Checked.ofExcept_eq_valid.mp hn, rfl⟩⟩
  | timeout | pollInterval =>
    obtain ⟨x, hx, _⟩ := Checked.bind_eq_valid.mp h
    exact ⟨_, (floatEntry_eq_valid hvar).mpr ⟨_, Checked.ofExcept_eq_valid.mp hx, rfl⟩⟩
  | directory => exact ⟨_, (directoryEntry_eq_valid hvar).mpr ⟨_, h, rfl⟩⟩

/-- If only one setting has a variable, the layer of the variables is what that one gives. -/
theorem layer_of_entry [Json.Nesting] {found : Option (String × Json)}
    (h : setting.entry homes vars = .valid found)
    (hothers : ∀ other ≠ setting, other.entry homes vars = .valid none) :
    vars.layer homes = .valid found.toList := by
  have hall : Setting.all.map (Setting.entry homes vars) =
      Setting.all.map fun other => if other = setting then .valid found else .valid none := by
    refine List.map_congr_left fun other _ => ?_
    by_cases hother : other = setting
    · rw [if_pos hother, hother, h]
    · rw [if_neg hother, hothers other hother]
  rw [PrecedenceLemmas.layer_eq, hall]
  cases setting <;> cases found <;> rfl

end Entries

/-- With only the variable of a setting, settings load just when the variable gives something from
which they are read. -/
theorem load_inVariable [Json.Nesting] : load homes (setting.inVariable text) = .valid settings ↔
    ∃ found, setting.entry homes [(setting.variableName, text)] = .valid found ∧
      readSettings homes (.obj (merged [] found.toList [])) = .valid settings := by
  have hvars : (setting.inVariable text).allVariables = .ok [(setting.variableName, text)] := rfl
  have hfile : (setting.inVariable text).fileLayer = .ok [] := rfl
  have hothers : ∀ other ≠ setting,
      other.entry homes [(setting.variableName, text)] = .valid none :=
    fun other hother => entry_of_missing (by rw [setting?_single, if_neg hother])
  rw [load, hvars]
  dsimp only
  rw [hfile]
  dsimp only
  rw [Checked.bind_eq_valid]
  constructor
  · rintro ⟨layer, hlayer, hread⟩
    have hentry := PrecedenceLemmas.entry_of_layer hlayer setting
    have hsame := layer_of_entry hentry hothers
    rw [hlayer, Checked.valid.injEq] at hsame
    exact ⟨_, hentry, hsame ▸ hread⟩
  · rintro ⟨found, hentry, hread⟩
    exact ⟨_, layer_of_entry hentry hothers, hread⟩

theorem setting?_variable (setting : Setting) (text : String) :
    Variables.setting? [(setting.variableName, text)] setting.name = some text := by
  rw [setting?_single, if_pos rfl]

/-- The variable of a setting, but for lists and directories, says what the file would say. -/
theorem load_inVariable_iff [Json.Nesting] (hlist : setting ≠ .extraHeaders)
    (hdirectory : setting ≠ .directory) :
    load homes (setting.inVariable text) = .valid settings ↔
      load homes (setting.inFile text) = .valid settings := by
  rw [load_inVariable, load_inFile]
  have hvar := setting?_variable setting text
  have htext : ∀ members, Json.str text ≠ .obj members := nofun
  constructor
  · rintro ⟨found, hentry, hread⟩
    obtain ⟨value, rfl, hplain, hreads⟩ := reads_of_entry hlist hdirectory hvar hentry
    refine (readSettings_congr hplain htext (hreads settings)).mp ?_
    rw [alone, ← coveredBy_flat]
    exact hread
  · intro h
    obtain ⟨given, hgiven, hreads⟩ := (readSettings_alone htext).mp h setting
    obtain rfl : given = .str text := by simpa [valueWith] using hgiven.symm
    obtain ⟨found, hentry⟩ := entry_of_reads hlist hvar hreads
    obtain ⟨value, rfl, hplain, hreads⟩ := reads_of_entry hlist hdirectory hvar hentry
    refine ⟨_, hentry, ?_⟩
    have hread := (readSettings_congr hplain htext (hreads settings)).mpr h
    rw [alone, ← coveredBy_flat] at hread
    exact hread

/-- A directory from a variable is read, and what it is read as is read once more. -/
theorem load_directory_inVariable [Json.Nesting] :
    load homes (Setting.directory.inVariable text) = .valid settings ↔
      ∃ path, normalPath homes text = .ok path ∧
        load homes (Setting.directory.inFile path) = .valid settings := by
  rw [load_inVariable]
  have hvar := setting?_variable .directory text
  constructor
  · rintro ⟨found, hentry, hread⟩
    obtain ⟨path, hpath, rfl⟩ := (directoryEntry_eq_valid hvar).mp hentry
    refine ⟨path, readDirectory_eq_valid.mp hpath, ?_⟩
    rw [load_inFile, alone, ← coveredBy_flat]
    exact hread
  · rintro ⟨path, hpath, hread⟩
    rw [load_inFile, alone, ← coveredBy_flat] at hread
    have hentry := (directoryEntry_eq_valid hvar).mpr ⟨path, readDirectory_eq_valid.mpr hpath, rfl⟩
    exact ⟨_, hentry, hread⟩

/-- A directory from the file takes the place of the usual one, as it is read. -/
theorem load_directory_inFile [Json.Nesting] :
    load homes (Setting.directory.inFile text) = .valid settings ↔
      ∃ path, normalPath homes text = .ok path ∧ settings = settingsIn path := by
  have htext : ∀ members, Json.str text ≠ .obj members := nofun
  have hload : ∀ path, normalPath homes text = .ok path →
      load homes (Setting.directory.inFile text) = .valid (settingsIn path) := by
    intro path hpath
    rw [load_inFile]
    refine (readSettings_alone htext).mpr fun other => ?_
    cases other with
    | directory => exact ⟨.str text, rfl, readDirectory_eq_valid.mpr hpath⟩
    | logFormat => exact ⟨_, rfl, _, rfl, rfl⟩
    | _ => exact ⟨_, rfl, rfl⟩
  constructor
  · intro h
    obtain ⟨found, hfound, hreads⟩ := (readSettings_alone htext).mp h .directory
    obtain rfl : found = .str text := by simpa [valueWith] using hfound.symm
    have hpath := readDirectory_eq_valid.mp hreads
    exact ⟨_, hpath, Checked.valid.inj (h.symm.trans (hload _ hpath))⟩
  · rintro ⟨path, hpath, rfl⟩
    exact hload path hpath

/-- Variable and file agree on a directory just when it is read once. -/
theorem directories_agree_iff [Json.Nesting] :
    (∀ settings, load homes (Setting.directory.inVariable text) = .valid settings ↔
      load homes (Setting.directory.inFile text) = .valid settings) ↔ homes.ReadOnce text := by
  simp only [load_directory_inVariable, load_directory_inFile]
  constructor
  · intro h path hpath
    obtain ⟨first, hfirst, again, hagain, hsame⟩ := (h (settingsIn path)).mpr ⟨path, hpath, rfl⟩
    obtain rfl : path = first := Except.ok.inj (hpath.symm.trans hfirst)
    have hpaths : path = again := congrArg (·.cache.directory) hsame
    rwa [← hpaths] at hagain
  · intro h settings
    constructor
    · rintro ⟨path, hpath, again, hagain, rfl⟩
      obtain rfl : path = again := Except.ok.inj ((h path hpath).symm.trans hagain)
      exact ⟨path, hpath, rfl⟩
    · rintro ⟨path, hpath, rfl⟩
      exact ⟨path, hpath, path, h path hpath, rfl⟩

end AgreementLemmas

open AgreementLemmas

/-- A text makes the same settings, or none, whether it is given by the variable of a setting only,
by the file only or by an option only. Extra headers are different, since a variable writes them as
JSON. The directory of the cache is different as well where it is not read once: a variable gives
what it is read as, which is then read again. It is read once if the homes are settled, or if no
tilde stands in front of what it is read as. -/
theorem same_text_same_settings [Json.Nesting] {homes : Homes} {setting : Setting}
    (hlist : setting ≠ .extraHeaders) (text : String) :
    (∀ settings, load homes (setting.inFile text) = .valid settings ↔
      load homes (setting.inOptions text) = .valid settings) ∧
    ((∀ settings, load homes (setting.inVariable text) = .valid settings ↔
      load homes (setting.inFile text) = .valid settings) ↔
        (setting = .directory → homes.ReadOnce text)) ∧
    (setting = .directory → ∀ settings,
      load homes (setting.inVariable text) = .valid settings ↔
        ∃ path, normalPath homes text = .ok path ∧
          load homes (setting.inFile path) = .valid settings) ∧
    ((homes.Settled ∨ ∀ path, normalPath homes text = .ok path → path.toList.head? ≠ some '~') →
      homes.ReadOnce text) := by
  refine ⟨fun settings => by rw [load_inFile, load_inOptions], ?_, ?_, ?_⟩
  · by_cases hdirectory : setting = .directory
    · subst hdirectory
      simpa using directories_agree_iff
    · exact iff_of_true (fun settings => load_inVariable_iff hlist hdirectory)
        fun h => absurd h hdirectory
  · rintro rfl settings
    exact load_directory_inVariable
  · rintro (hhomes | hfront)
    · exact hhomes.readOnce text
    · exact Homes.readOnce_of_no_tilde hfront

attribute [local instance] Json.Nesting.usual

/-- A tilde stands for the home of the user, be it in the variable, in the file or in an option. -/
theorem same_text_same_settings_at_home :
    Setting.directory ≠ .extraHeaders ∧ plainHomes.ReadOnce "~/cache" ∧
      load plainHomes (Setting.directory.inVariable "~/cache") =
        .valid (settingsIn "/home/me/cache") ∧
      load plainHomes (Setting.directory.inFile "~/cache") =
        .valid (settingsIn "/home/me/cache") ∧
      load plainHomes (Setting.directory.inOptions "~/cache") =
        .valid (settingsIn "/home/me/cache") := by
  have hlist : Setting.directory ≠ .extraHeaders := by decide
  have hpath : normalPath plainHomes "~/cache" = .ok "/home/me/cache" := rfl
  have hfile : load plainHomes (Setting.directory.inFile "~/cache") =
      .valid (settingsIn "/home/me/cache") := rfl
  obtain ⟨hoptions, hvariable, -, honce⟩ :=
    same_text_same_settings hlist "~/cache"
  have honce : plainHomes.ReadOnce "~/cache" := honce <| .inr fun path h => by
    obtain rfl := Except.ok.inj (hpath.symm.trans h)
    decide
  exact ⟨hlist, honce, (hvariable.mpr (fun _ => honce) _).mpr hfile, hfile,
    (hoptions _).mp hfile⟩

/-- Where the program runs. A directory that was read in it may have a tilde in front. -/
def bareHomes : Homes := ⟨".", []⟩

/-- A variable leads to the home of the user where the same text in the file or in an option leads
to a directory in it that is called like a home. -/
theorem directory_is_read_twice_from_variable :
    load bareHomes (Setting.directory.inVariable "~/~") = .valid (settingsIn ".") ∧
      load bareHomes (Setting.directory.inFile "~/~") = .valid (settingsIn "~") ∧
      load bareHomes (Setting.directory.inOptions "~/~") = .valid (settingsIn "~") ∧
      settingsIn "." ≠ settingsIn "~" :=
  ⟨rfl, rfl, rfl, by decide⟩

end MagnetStream.Config
