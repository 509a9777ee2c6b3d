import MagnetStream.Proofs.Config.Precedence

/-!
# Exported variables and those of a file

A file of variables adds those that are not exported under the very same name, but settings go by
names without regard to case, and of several spellings the last one counts. What the file adds
stands behind what is exported. So the variable by which a setting goes is an exported one just when
the file spells the setting in no other way than exported variables do (`exported_wins_iff`).
-/

namespace MagnetStream.Config

/-- A name is one of the spellings of the variable of a setting. -/
def Setting.Spells (setting : Setting) (name : String) : Prop :=
  Variables.fold name = Variables.front ++ setting.name

instance (setting : Setting) (name : String) : Decidable (setting.Spells name) :=
  inferInstanceAs (Decidable (_ = _))

/-- The variables of the file, if there is one. -/
def Sources.inVariablesFile (sources : Sources) : Variables :=
  match sources.variablesFile with
  | .found _ content => content
  | _ => []

/-- The variable by which a setting goes: the last one that spells it. -/
def Setting.bearer? (setting : Setting) (vars : Variables) : Option (String × String) :=
  vars.reverse.find? fun bearer => setting.Spells bearer.1

namespace ExportedLemmas

open Entries

variable {setting : Setting} {exported file vars : Variables} {bearer : String × String}

/-! ## What a file adds -/

/-- A text that mentions no variable stays as it is. -/
theorem resolve_of_not_mem {value? : String → Option String} {text : List Char} (h : '$' ∉ text) :
    Variables.resolve value? text = text := by
  induction text with
  | nil => rw [Variables.resolve]
  | cons c rest ih =>
    have hnone : Variables.mention? (c :: rest) = none := by
      unfold Variables.mention?
      split
      · next heq => simp [(List.cons.inj heq).1] at h
      · rfl
    rw [Variables.resolve]
    split
    · next hsome =>
      rw [hnone] at hsome
      cases hsome
    · rw [ih fun hm => h (List.mem_cons_of_mem _ hm)]

/-- A file has the same names once the mentions of variables are replaced. -/
theorem mem_names_resolved {name : String} :
    name ∈ names (exported.resolved file) ↔ name ∈ names file := by
  have hfold : name ∈ names (exported.resolved file) ↔ name ∈ names [] ∨ name ∈ names file :=
    mem_names_foldl_insert (fun before pair => String.ofList (Variables.resolve
      (fun other => exported.lookup other <|> before.lookup other) pair.2.toList)) file []
  exact hfold.trans (by simp [names])

theorem mem_names_added {name : String} :
    name ∈ names (exported.added file) ↔ name ∈ names file ∧ name ∉ names exported := by
  have hnew : (!(exported.any fun other => other.1 == name)) = true ↔ name ∉ names exported := by
    simp only [Bool.not_eq_true', ← Bool.not_eq_true, List.any_eq_true, beq_iff_eq, names,
      List.mem_map]
  have hfile : name ∈ names file ↔ name ∈ names (exported.resolved file) :=
    mem_names_resolved.symm
  rw [hfile, ← hnew]
  constructor
  · intro h
    obtain ⟨added, hm, rfl⟩ := List.mem_map.mp h
    obtain ⟨hm, hkept⟩ := List.mem_filter.mp hm
    exact ⟨List.mem_map_of_mem hm, hkept⟩
  · rintro ⟨h, hkept⟩
    obtain ⟨added, hm, rfl⟩ := List.mem_map.mp h
    exact List.mem_map_of_mem (List.mem_filter.mpr ⟨hm, hkept⟩)

theorem eq_append_added {sources : Sources} (h : sources.allVariables = .ok vars) :
    vars = sources.exported ++ sources.exported.added sources.inVariablesFile := by
  unfold Sources.allVariables at h
  unfold Sources.inVariablesFile
  split at h
  · next hfile =>
    cases h
    simp [hfile, Variables.added, Variables.resolved]
  · next hfile =>
    cases h
    simp [hfile, Variables.added, Variables.resolved]
  · cases h
  · cases h
  · next content hfile =>
    unfold Variables.withFile at h
    dsimp only at h
    split at h
    · cases h
    · cases h
      simp [hfile]

/-! ## The variable by which a setting goes -/

theorem setting?_eq : vars.setting? setting.name = (setting.bearer? vars).map Prod.snd := rfl

/-- What stands behind goes before. -/
theorem bearer?_append (front back : Variables) :
    setting.bearer? (front ++ back) = (setting.bearer? back).or (setting.bearer? front) := by
  simp only [Setting.bearer?, List.reverse_append, List.find?_append]

theorem of_bearer?_eq_some (h : setting.bearer? vars = some bearer) :
    bearer ∈ vars ∧ setting.Spells bearer.1 :=
  ⟨List.mem_reverse.mp (List.mem_of_find?_eq_some h), by simpa using List.find?_some h⟩

theorem bearer?_eq_none :
    setting.bearer? vars = none ↔ ∀ name ∈ names vars, ¬ setting.Spells name := by
  simp [Setting.bearer?, names]

theorem bearer?_single (h : setting.Spells bearer.1) : setting.bearer? [bearer] = some bearer := by
  simp [Setting.bearer?, h]

/-- Variables with the same text for a setting say the same about it. -/
theorem entry_congr [Json.Nesting] {homes : Homes} {others : Variables}
    (h : vars.setting? setting.name = others.setting? setting.name) :
    setting.entry homes vars = setting.entry homes others := by
  cases setting <;>
    simp only [Setting.entry, Variables.textEntry, Variables.wordEntry, Variables.intEntry,
      Variables.floatEntry, Variables.directoryEntry, Variables.listEntry, Variables.entry, h]

/-- What variables say about a setting is what the one says by which it goes. -/
theorem entry_of_bearer [Json.Nesting] {homes : Homes} (h : setting.bearer? vars = some bearer) :
    setting.entry homes vars = setting.entry homes [bearer] := by
  refine entry_congr ?_
  rw [setting?_eq, setting?_eq, h, bearer?_single (of_bearer?_eq_some h).2]

/-- The layer of the variables holds of a setting what the variable says by which it goes. -/
theorem layer_of_bearer [Json.Nesting] {homes : Homes} {layer : Layer}
    (h : setting.bearer? vars = some bearer) (hlayer : vars.layer homes = .valid layer) :
    setting.entry homes [bearer] = .valid ((setting.spot.given? layer).map (setting.name, ·)) :=
  (entry_of_bearer h).symm.trans (PrecedenceLemmas.entry_of_layer hlayer setting)

end ExportedLemmas

open ExportedLemmas

/-- A setting that is exported under some spelling goes by one variable, from whose text comes what
the layer of the variables holds of it. It is an exported variable just when every spelling in the
file is itself the name of an exported variable; otherwise the file overrules what is exported. -/
theorem exported_wins_iff [Json.Nesting] {sources : Sources} {vars : Variables}
    (h : sources.allVariables = .ok vars) {setting : Setting}
    (hexported : ∃ name ∈ Entries.names sources.exported, setting.Spells name) :
    ∃ bearer, setting.bearer? vars = some bearer ∧ setting.Spells bearer.1 ∧
      (∀ homes layer, vars.layer homes = .valid layer →
        setting.entry homes [bearer] =
          .valid ((setting.spot.given? layer).map (setting.name, ·))) ∧
      (bearer ∈ sources.exported ↔ ∀ name ∈ Entries.names sources.inVariablesFile,
        setting.Spells name → name ∈ Entries.names sources.exported) := by
  have hvars := eq_append_added h
  cases hadded : setting.bearer? (sources.exported.added sources.inVariablesFile) with
  | some bearer =>
    have hbearer : setting.bearer? vars = some bearer := by
      rw [hvars, bearer?_append, hadded, Option.some_or]
    obtain ⟨hm, hspells⟩ := of_bearer?_eq_some hadded
    obtain ⟨hfile, hnew⟩ := mem_names_added.mp (List.mem_map_of_mem hm)
    refine ⟨bearer, hbearer, hspells, fun _ _ => layer_of_bearer hbearer, fun hm => ?_,
      fun hall => ?_⟩
    · exact absurd (List.mem_map_of_mem hm) hnew
    · exact absurd (hall _ hfile hspells) hnew
  | none =>
    obtain ⟨name, hname, hspells⟩ := hexported
    have hnone := bearer?_eq_none.mp hadded
    obtain ⟨bearer, hbearer⟩ : ∃ bearer, setting.bearer? sources.exported = some bearer :=
      Option.ne_none_iff_exists'.mp fun hnone => bearer?_eq_none.mp hnone name hname hspells
    obtain ⟨hm, hspells⟩ := of_bearer?_eq_some hbearer
    have hbearer : setting.bearer? vars = some bearer := by
      rw [hvars, bearer?_append, hadded, Option.none_or, hbearer]
    refine ⟨bearer, hbearer, hspells, fun _ _ => layer_of_bearer hbearer,
      fun _ name hfile hname => ?_, fun _ => hm⟩
    exact Decidable.byContradiction fun hnew =>
      hnone name (mem_names_added.mpr ⟨hfile, hnew⟩) hname

/-- The level of the log is exported in two spellings, and the file has one of them. -/
def sameSpelling : Sources where
  file := .none
  variablesFile := .found ".env" [("DEBRIDSTREAM_LOG_LEVEL", "DEBUG")]
  exported := [("DEBRIDSTREAM_LOG_LEVEL", "WARNING"), ("debridstream_log_level", "ERROR")]
  options := []

attribute [local instance] Json.Nesting.usual

/-- It goes by the last exported variable. -/
theorem exported_wins_iff_of_same_spelling :
    sameSpelling.allVariables = .ok sameSpelling.exported ∧
      (∃ name ∈ Entries.names sameSpelling.exported, Setting.logLevel.Spells name) ∧
      Setting.logLevel.bearer? sameSpelling.exported = some ("debridstream_log_level", "ERROR") ∧
      ("debridstream_log_level", "ERROR") ∈ sameSpelling.exported := by
  have hvars : sameSpelling.allVariables = .ok sameSpelling.exported := rfl
  have hexported : ∃ name ∈ Entries.names sameSpelling.exported, Setting.logLevel.Spells name :=
    ⟨"DEBRIDSTREAM_LOG_LEVEL", by decide, by decide +kernel⟩
  have hlast : Setting.logLevel.bearer? sameSpelling.exported =
      some ("debridstream_log_level", "ERROR") := by decide +kernel
  obtain ⟨bearer, hbearer, _, _, hiff⟩ := exported_wins_iff hvars hexported
  cases hlast.symm.trans hbearer
  exact ⟨hvars, hexported, hlast, hiff.mpr (by decide)⟩

/-- The level of the log is exported in another spelling than the one in the file. -/
def otherSpelling : Sources where
  file := .none
  variablesFile := .found ".env" [("DEBRIDSTREAM_LOG_LEVEL", "DEBUG")]
  exported := [("debridstream_log_level", "ERROR")]
  options := []

/-- The defaults, with a log that tells everything. -/
def debugSettings : Settings where
  appName := "debridstream"
  environment := .dev
  service := defaultService
  cache := defaultCache
  logLevel := .debug
  logFormat := .console

theorem allVariables_otherSpelling : otherSpelling.allVariables =
    .ok [("debridstream_log_level", "ERROR"), ("DEBRIDSTREAM_LOG_LEVEL", "DEBUG")] := by
  have hadded : otherSpelling.exported.added [("DEBRIDSTREAM_LOG_LEVEL", "DEBUG")] =
      [("DEBRIDSTREAM_LOG_LEVEL", "DEBUG")] := by
    simp [Variables.added, Variables.resolved, otherSpelling, Entries.insert, resolve_of_not_mem]
  show otherSpelling.exported.withFile _ = _
  rw [Variables.withFile, hadded]
  rfl

/-- The file overrules the exported variable. -/
theorem other_spelling_overrules :
    ∃ vars settings, otherSpelling.allVariables = .ok vars ∧
      Setting.logLevel.Spells "debridstream_log_level" ∧
      vars.layer plainHomes = .valid [("log_level", .str "DEBUG")] ∧
      "DEBUG" ∉ otherSpelling.exported.map Prod.snd ∧
      load plainHomes otherSpelling = .valid settings ∧ settings.logLevel = .debug := by
  refine ⟨_, debugSettings, allVariables_otherSpelling,
    by decide +kernel, rfl, by decide, ?_, rfl⟩
  rw [load, allVariables_otherSpelling]
  rfl

end MagnetStream.Config
