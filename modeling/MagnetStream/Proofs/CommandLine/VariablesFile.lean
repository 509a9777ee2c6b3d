import MagnetStream.Proofs.CommandLine.Launch
import MagnetStream.Proofs.Config.Exported

/-!
# A file of variables at the start

Host and port are settled before a file of variables is read, and everything else behind it. So the
program starts as if the variables of the file had been exported, those for host and port left out
(`variables_file_counts_but_for_host_and_port`).
-/

namespace MagnetStream.CommandLine

open Config (Setting Sources Variables)

/-- What the program makes of the variables of a file: it does not hear of host and port. -/
def heard (file : Variables) : Variables := Entries.erase (Entries.erase file "HOST") "PORT"

/-- Variables of which the program makes the same, once host and port are settled. -/
structure Agree (vars others : Variables) : Prop where
  home : vars.lookup "HOME" = others.lookup "HOME"
  settings : ∀ setting : Setting, vars.setting? setting.name = others.setting? setting.name

namespace VariablesFileLemmas

open Config.ExportedLemmas LaunchLemmas OptionLemmas

variable {homes : Config.Homes} {files : Files} {exported content vars others : Variables}
  {sources otherSources : Sources} {setting : Setting}

/-! ## What is heard of a file -/

theorem bearer?_erase {name : String} (h : ¬ setting.Spells name) (vars : Variables) :
    setting.bearer? (Entries.erase vars name) = setting.bearer? vars := by
  rw [Setting.bearer?, Setting.bearer?, Entries.erase, ← List.filter_reverse, List.find?_filter]
  congr 1
  -- What is taken out does not spell the setting.
  funext bearer
  by_cases hbearer : bearer.1 = name
  · simp [hbearer, h]
  · simp [hbearer]

theorem bearer?_heard (setting : Setting) (vars : Variables) :
    setting.bearer? (heard vars) = setting.bearer? vars := by
  have hapart : ∀ name ∈ ["HOST", "PORT"], ¬ setting.Spells name := by
    cases setting <;> decide +kernel
  rw [heard, bearer?_erase (hapart "PORT" (by decide)), bearer?_erase (hapart "HOST" (by decide))]

theorem lookup_heard (file : Variables) (name : String) : (heard file).lookup name =
    if name = "HOST" ∨ name = "PORT" then none else file.lookup name := by
  have herase : Entries.get? (heard file) name =
      if name = "PORT" then none else if name = "HOST" then none else Entries.get? file name := by
    rw [heard, Entries.get?_erase, Entries.get?_erase]
  refine herase.trans ?_
  by_cases hport : name = "PORT" <;> by_cases hhost : name = "HOST" <;>
    simp [hport, hhost, Entries.get?]

theorem lookup_append_heard (vars file : Variables) (name : String) :
    (vars ++ heard file).lookup name =
      if name = "HOST" ∨ name = "PORT" then vars.lookup name else (vars ++ file).lookup name := by
  rw [List.lookup_append, List.lookup_append, lookup_heard]
  split
  · rw [Option.or_none]
  · rfl

theorem agree_heard (vars file : Variables) : Agree (vars ++ file) (vars ++ heard file) where
  home := by rw [lookup_append_heard, if_neg (by decide)]
  settings setting := by
    rw [setting?_eq, setting?_eq, bearer?_append, bearer?_append, bearer?_heard]

theorem heard_eq_self (hhost : "HOST" ∉ Entries.names vars) (hport : "PORT" ∉ Entries.names vars) :
    heard vars = vars := by
  have hkept : ∀ name ∉ Entries.names vars, Entries.erase vars name = vars := fun name h =>
    List.filter_eq_self.mpr fun entry hm => by
      simpa using fun heq : entry.1 = name => h (heq ▸ List.mem_map_of_mem hm)
  rw [heard, hkept "HOST" hhost, hkept "PORT" hport]

/-- Variables that have none of their names in common with the exported ones are all added. -/
theorem added_eq_resolved
    (h : ∀ name ∈ Entries.names content, name ∉ Entries.names exported) :
    exported.added content = exported.resolved content := by
  refine List.filter_eq_self.mpr fun entry hm => ?_
  have hnew := h entry.1 (mem_names_resolved.mp (List.mem_map_of_mem hm))
  rw [Bool.not_eq_true', List.any_eq_false]
  exact fun other hother heq => hnew (eq_of_beq heq ▸ List.mem_map_of_mem hother)

/-! ## Variables of which the program makes the same -/

theorem layer_of_agree [Json.Nesting] (h : Agree vars others) (homes : Config.Homes) :
    vars.layer homes = others.layer homes := by
  rw [Config.PrecedenceLemmas.layer_eq, Config.PrecedenceLemmas.layer_eq]
  congr 1
  exact List.map_congr_left fun setting _ => entry_congr (h.settings setting)

theorem settingsOf_of_agree [Json.Nesting] (h : Agree vars others)
    (hvars : sources.allVariables = .ok vars) (hothers : otherSources.allVariables = .ok others)
    (hfile : sources.file = otherSources.file) (hoptions : sources.options = otherSources.options)
    (homes : Config.Homes) : settingsOf homes sources = settingsOf homes otherSources := by
  have hhomes : homesFor homes sources = homesFor homes otherSources := by
    simp only [homesFor, hvars, hothers, h.home]
  simp only [settingsOf, hhomes, Config.load, hvars, hothers, layer_of_agree h, Sources.fileLayer,
    hfile, hoptions]

/-! ## Starting -/

theorem hostOf_heard (options : Options) (vars file : Variables) :
    hostOf options (vars ++ heard file) = hostOf options vars := by
  simp only [hostOf, lookup_append_heard, true_or, if_true]

theorem portOf_heard (options : Options) (vars file : Variables) :
    portOf options (vars ++ heard file) = portOf options vars := by
  simp only [portOf, portOf.fallback, lookup_append_heard, or_true, if_true]

theorem launchWith_file [Json.Nesting] {options : Options} {name path : String}
    (h : options.dotenv = .absent) (hfile : files.find files.dotenv name = .found path content)
    (hvalues : ∀ entry ∈ exported.added content, '\x00' ∉ entry.2.toList) :
    launchWith homes files exported (options.withDotenv (.value name)) =
      launchWith homes files (exported ++ heard (exported.added content)) options := by
  have hwith : (sourcesOf files exported (options.withDotenv (.value name))).allVariables =
      .ok (exported ++ exported.added content) := by
    have hsound : ¬ (exported.added content).any fun entry => entry.2.toList.contains '\x00' := by
      simpa using hvalues
    show Sources.allVariables ⟨_, files.find files.dotenv name, exported, _⟩ = _
    rw [hfile]
    exact if_neg hsound
  have hwithout : (sourcesOf files (exported ++ heard (exported.added content))
      options).allVariables = .ok (exported ++ heard (exported.added content)) := by
    have hnone : files.find files.dotenv options.dotenv.text = .none := by
      rw [h]
      rfl
    rw [Sources.allVariables, sourcesOf, hnone]
  have hsame := settingsOf_of_agree (agree_heard exported _) hwith hwithout rfl rfl homes
  rw [launchWith, launchWith, hostOf_heard, portOf_heard, hsame]
  rfl

/-- A file whose variables are added to the exported ones has the outcome that exporting them has,
those for host and port left out. -/
theorem launch_file [Json.Nesting] (homes : Config.Homes) {front form : List String}
    (words : List String) {name path : String} (hfront : Complete front)
    (hform : Gives .dotenv name form) (hwords : said .dotenv (front ++ words) = .absent)
    (hfile : files.find files.dotenv name = .found path content)
    (hvalues : ∀ entry ∈ exported.added content, '\x00' ∉ entry.2.toList) :
    launch homes files exported (front ++ (form ++ words)) =
      launch homes files (exported ++ heard (exported.added content)) (front ++ words) := by
  rw [launch_eq, launch_eq, readOptions_gives hfront hform hwords]
  cases hoptions : readOptions (front ++ words) with
  | error stop => rfl
  | ok options =>
    have hdotenv : options.dotenv = .absent :=
      (holds_of_readOptions hoptions .dotenv).trans hwords
    exact launchWith_file hdotenv hfile hvalues

end VariablesFileLemmas

open VariablesFileLemmas Config.ExportedLemmas

/-- A file of variables none of which is exported, named by an option that stands among others, has
the outcome that exporting its variables has, those for host and port left out. So it is the same as
to export them if the file has neither. -/
theorem variables_file_counts_but_for_host_and_port [Json.Nesting] (homes : Config.Homes)
    {files : Files} {exported content : Variables} {front form words : List String}
    {name path : String} (hfront : Complete front) (hform : Gives .dotenv name form)
    (hwords : said .dotenv (front ++ words) = .absent)
    (hfile : files.find files.dotenv name = .found path content)
    (hnew : ∀ name ∈ Entries.names content, name ∉ Entries.names exported)
    (hvalues : ∀ entry ∈ exported.resolved content, '\x00' ∉ entry.2.toList) :
    launch homes files exported (front ++ (form ++ words)) =
        launch homes files (exported ++ heard (exported.resolved content)) (front ++ words) ∧
      ("HOST" ∉ Entries.names content → "PORT" ∉ Entries.names content →
        launch homes files exported (front ++ (form ++ words)) =
          launch homes files (exported ++ exported.resolved content) (front ++ words)) := by
  have hsame : launch homes files exported (front ++ (form ++ words)) =
      launch homes files (exported ++ heard (exported.resolved content)) (front ++ words) := by
    rw [← added_eq_resolved hnew] at hvalues ⊢
    exact launch_file homes words hfront hform hwords hfile hvalues
  refine ⟨hsame, fun hhost hport => ?_⟩
  rw [hsame, heard_eq_self (mem_names_resolved.not.mpr hhost) (mem_names_resolved.not.mpr hport)]

/-- The variables of a file that speaks of the log. -/
def levelFile : Variables := [("DEBRIDSTREAM_LOG_LEVEL", "DEBUG")]

/-- The variables of a file that speaks of the port as well. -/
def portFile : Variables := ("PORT", "9000") :: levelFile

def variablesFiles : Files where
  settings := []
  dotenv := [("level.env", levelFile), ("port.env", portFile)]
  isDirectory _ := false

theorem resolved_levelFile (exported : Variables) : exported.resolved levelFile = levelFile := by
  simp [Variables.resolved, levelFile, Entries.insert, resolve_of_not_mem]

theorem resolved_portFile (exported : Variables) : exported.resolved portFile = portFile := by
  simp [Variables.resolved, portFile, levelFile, Entries.insert, resolve_of_not_mem]

attribute [local instance] Json.Nesting.usual

/-- Both files have the outcome of an exported level of the log. -/
theorem variables_file_counts_but_for_host_and_port_of_level :
    Complete ["--port", "8000"] ∧ Gives .dotenv "port.env" ["--dotenv=port.env"] ∧
      Gives .dotenv "level.env" ["--dotenv", "level.env"] ∧
      said .dotenv ["--port", "8000", "--log-format=json"] = .absent ∧
      launch Config.plainHomes variablesFiles [("HOST", "127.0.0.1")]
          ["--port", "8000", "--dotenv=port.env", "--log-format=json"] =
        launch Config.plainHomes variablesFiles (("HOST", "127.0.0.1") :: levelFile)
          ["--port", "8000", "--log-format=json"] ∧
      launch Config.plainHomes variablesFiles [("HOST", "127.0.0.1")]
          ["--port", "8000", "--dotenv", "level.env", "--log-format=json"] =
        launch Config.plainHomes variablesFiles (("HOST", "127.0.0.1") :: levelFile)
          ["--port", "8000", "--log-format=json"] := by
  have hport : Gives .port "8000" ["--port", "8000"] := .apart rfl rfl
  have hfront : Complete ["--port", "8000"] := .cons (by decide) hport .nil
  have hjoined : Gives .dotenv "port.env" ["--dotenv=port.env"] := .joined rfl (by decide)
  have hapart : Gives .dotenv "level.env" ["--dotenv", "level.env"] := .apart rfl rfl
  have hwords : said .dotenv ["--port", "8000", "--log-format=json"] = .absent := by
    decide +kernel
  have hnew : ∀ name ∈ Entries.names portFile,
      name ∉ Entries.names [("HOST", "127.0.0.1")] := by decide
  obtain ⟨hheard, -⟩ := variables_file_counts_but_for_host_and_port Config.plainHomes hfront
    hjoined hwords (show variablesFiles.find variablesFiles.dotenv "port.env" = _ from rfl) hnew
    (by rw [resolved_portFile]; decide)
  obtain ⟨-, hall⟩ := variables_file_counts_but_for_host_and_port Config.plainHomes hfront
    hapart hwords (show variablesFiles.find variablesFiles.dotenv "level.env" = _ from rfl)
    (fun name hm => hnew name (List.mem_cons_of_mem _ hm)) (by rw [resolved_levelFile]; decide)
  rw [resolved_portFile] at hheard
  rw [resolved_levelFile] at hall
  exact ⟨hfront, hjoined, hapart, hwords, hheard, hall (by decide) (by decide)⟩

/-- Where the port is in the file, the program serves on another one than if it were exported. -/
theorem port_of_file_is_not_heard :
    variablesFiles.find variablesFiles.dotenv "port.env" = .found "port.env" portFile ∧
      Variables.resolved [] portFile = portFile ∧
      launch Config.plainHomes variablesFiles [] ["--dotenv", "port.env"] ≠
        launch Config.plainHomes variablesFiles portFile [] := by
  have hfile : variablesFiles.find variablesFiles.dotenv "port.env" =
      .found "port.env" portFile := rfl
  have hform : Gives .dotenv "port.env" ["--dotenv", "port.env"] := .apart rfl rfl
  have hadded : Variables.added [] portFile = portFile := by
    rw [added_eq_resolved (by decide), resolved_portFile]
  have hvalues : ∀ entry ∈ Variables.added [] portFile, '\x00' ∉ entry.2.toList := by
    rw [hadded]
    decide
  have hlaunch := launch_file Config.plainHomes [] .nil hform (by decide +kernel) hfile hvalues
  simp only [hadded, List.nil_append, List.append_nil] at hlaunch
  refine ⟨hfile, resolved_portFile [], fun h => ?_⟩
  -- It serves on 7980 and not on 9000.
  have hport := congrArg (fun outcome => outcome.toOption.map Launch.port) (hlaunch ▸ h)
  revert hport
  decide +kernel

end MagnetStream.CommandLine
