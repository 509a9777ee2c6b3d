import MagnetStream.Log.Setup
import MagnetStream.Proofs.Config.Precedence
import MagnetStream.Proofs.Log.Hierarchy

/-!
# Which records are written

Of the records that can be made into a line, one is written if its level reaches that of the
settings, and for the loggers of the HTTP library, if it is a warning or worse. It is written once,
to standard output if its logger is the one for requests to the web server or below it, and to
standard error otherwise (`important_records_are_written_once`).
-/

namespace MagnetStream.Log

def serverLogger : String := "uvicorn"

/-- The logger for what happens in the life of the web server. -/
def lifeLogger : String := "uvicorn.error"

/-- The logger for requests to the web server. -/
def accessLogger : String := "uvicorn.access"

def networkLogger : String := "httpx"

def ruledLoggers : List String := [serverLogger, lifeLogger, accessLogger, networkLogger]

/-- The level that records of a logger need. -/
def needed (settings : Config.Settings) (known : List String) (logger : String) : Level :=
  if Within known networkLogger logger then .warning else settings.logLevel

def place (known : List String) (logger : String) : Sink :=
  if Within known accessLogger logger then .standardOutput else .standardError

namespace OutputLemmas

/-! ## The rules of a set-up -/

section Following

variable (level : Level) {known : List String} {logger : String}

theorem names_rulesFor : (rulesFor level).loggers.names = ruledLoggers := rfl

/-- The rules that bear on a logger are read off the names above the nearest logger with a rule. -/
theorem bearingOn_rulesFor {top : String} {above : List String} (h : Within known top logger)
    (hlineage : lineage known top = top :: above)
    (hnearest : ∀ other ∈ ruledLoggers, Within known top other → Within known other logger →
      other = top) :
    (rulesFor level).bearingOn known logger =
      (top :: above).filterMap (rulesFor level).loggers.get? ++ [(rulesFor level).root] := by
  have hself : Within known top top := by
    rw [Within, hlineage]
    exact List.mem_cons_self
  have hfollows : (rulesFor level).bearingOn known logger = (rulesFor level).bearingOn known top :=
    Rules.bearingOn_of_nearest h hself hnearest
  rw [hfollows, Rules.bearingOn, hlineage]

section Lineages

variable (h : serverLogger ∈ known)

theorem lineage_server : lineage known serverLogger = [serverLogger] :=
  HierarchyLemmas.lineage_word (by decide) (by decide) (by decide)

theorem lineage_network : lineage known networkLogger = [networkLogger] :=
  HierarchyLemmas.lineage_word (by decide) (by decide) (by decide)

include h

theorem lineage_life : lineage known lifeLogger = [lifeLogger, serverLogger] := by
  have hname : lifeLogger = serverLogger ++ "." ++ "error" := by decide
  rw [hname, HierarchyLemmas.lineage_append_word h (by decide) (by decide) (by decide),
    lineage_server]

theorem lineage_access : lineage known accessLogger = [accessLogger, serverLogger] := by
  have hname : accessLogger = serverLogger ++ "." ++ "access" := by decide
  rw [hname, HierarchyLemmas.lineage_append_word h (by decide) (by decide) (by decide),
    lineage_server]

/-- What belongs to the life of the web server or to its requests belongs to the web server. -/
theorem within_server_of_life (hlogger : Within known lifeLogger logger) :
    Within known serverLogger logger := by
  refine Within.trans ?_ hlogger
  rw [Within, lineage_life h]
  exact List.mem_cons_of_mem _ List.mem_cons_self

theorem within_server_of_access (hlogger : Within known accessLogger logger) :
    Within known serverLogger logger := by
  refine Within.trans ?_ hlogger
  rw [Within, lineage_access h]
  exact List.mem_cons_of_mem _ List.mem_cons_self

theorem bearingOn_access (hlogger : Within known accessLogger logger) :
    (rulesFor level).bearingOn known logger =
      [closedRule level .standardOutput, closedRule level .standardError,
        (rulesFor level).root] := by
  have halone : ∀ other ∈ ruledLoggers, NamedWithin accessLogger other → other = accessLogger := by
    decide
  exact bearingOn_rulesFor level hlogger (lineage_access h) fun other hm hbelow _ =>
    halone other hm hbelow.named

theorem bearingOn_life (hlogger : Within known lifeLogger logger) :
    (rulesFor level).bearingOn known logger =
      [levelRule level, closedRule level .standardError, (rulesFor level).root] := by
  have halone : ∀ other ∈ ruledLoggers, NamedWithin lifeLogger other → other = lifeLogger := by
    decide
  exact bearingOn_rulesFor level hlogger (lineage_life h) fun other hm hbelow _ =>
    halone other hm hbelow.named

end Lineages

theorem bearingOn_network (hlogger : Within known networkLogger logger) :
    (rulesFor level).bearingOn known logger = [levelRule .warning, (rulesFor level).root] := by
  have halone : ∀ other ∈ ruledLoggers, NamedWithin networkLogger other →
      other = networkLogger := by
    decide
  exact bearingOn_rulesFor level hlogger lineage_network fun other hm hbelow _ =>
    halone other hm hbelow.named

theorem bearingOn_server (hlogger : Within known serverLogger logger)
    (haccess : ¬ Within known accessLogger logger) (hlife : ¬ Within known lifeLogger logger) :
    (rulesFor level).bearingOn known logger =
      [closedRule level .standardError, (rulesFor level).root] := by
  have hbelow : ∀ other ∈ ruledLoggers, NamedWithin serverLogger other →
      other = serverLogger ∨ other = lifeLogger ∨ other = accessLogger := by
    decide
  refine bearingOn_rulesFor level hlogger lineage_server fun other hm hserver hother => ?_
  rcases hbelow other hm hserver.named with rfl | rfl | rfl
  · rfl
  · exact absurd hother hlife
  · exact absurd hother haccess

theorem bearingOn_else (h : serverLogger ∈ known) (hserver : ¬ Within known serverLogger logger)
    (hnetwork : ¬ Within known networkLogger logger) :
    (rulesFor level).bearingOn known logger = [(rulesFor level).root] := by
  refine Rules.bearingOn_of_none fun other hm hother => ?_
  have hruled : ∀ other ∈ ruledLoggers, other = serverLogger ∨ other = lifeLogger ∨
      other = accessLogger ∨ other = networkLogger := by
    decide
  rcases hruled other hm with rfl | rfl | rfl | rfl
  · exact hserver hother
  · exact hserver (within_server_of_life h hother)
  · exact hserver (within_server_of_access h hother)
  · exact hnetwork hother

/-- The web server's loggers are not the HTTP library's. -/
theorem not_network_of_server (h : Within known serverLogger logger) :
    ¬ Within known networkLogger logger := by
  intro hnetwork
  have hapart : ¬ NamedWithin serverLogger networkLogger ∧
      ¬ NamedWithin networkLogger serverLogger := by
    decide
  exact (h.named.comparable hnetwork.named).elim hapart.1 hapart.2

/-- The nearest level is that of the settings but for the HTTP library, and the first sinks are
those of the place of the logger. -/
theorem threshold_and_sinks (settings : Config.Settings) (h : serverLogger ∈ known)
    (logger : String) :
    (rulesFor settings.logLevel).threshold known logger = needed settings known logger ∧
      Rules.collectSinks ((rulesFor settings.logLevel).bearingOn known logger) =
        [place known logger] := by
  rw [Rules.threshold, needed, place]
  by_cases hserver : Within known serverLogger logger
  · have hnetwork := not_network_of_server hserver
    by_cases haccess : Within known accessLogger logger
    · rw [bearingOn_access _ h haccess, if_neg hnetwork, if_pos haccess]
      exact ⟨rfl, rfl⟩
    by_cases hlife : Within known lifeLogger logger
    · rw [bearingOn_life _ h hlife, if_neg hnetwork, if_neg haccess]
      exact ⟨rfl, rfl⟩
    · rw [bearingOn_server _ hserver haccess hlife, if_neg hnetwork, if_neg haccess]
      exact ⟨rfl, rfl⟩
  · have haccess : ¬ Within known accessLogger logger :=
      fun hlogger => hserver (within_server_of_access h hlogger)
    by_cases hnetwork : Within known networkLogger logger
    · rw [bearingOn_network _ hnetwork, if_pos hnetwork, if_neg haccess]
      exact ⟨rfl, rfl⟩
    · rw [bearingOn_else _ h hserver hnetwork, if_neg hnetwork, if_neg haccess]
      exact ⟨rfl, rfl⟩

/-- A record goes to the place of its logger if its level is as high as needed. -/
theorem sinksFor_rulesFor (settings : Config.Settings) (h : serverLogger ∈ known)
    (record : Record) :
    (rulesFor settings.logLevel).sinksFor known record =
      if (needed settings known record.logger).rank ≤ record.level.rank then
        [place known record.logger]
      else [] := by
  obtain ⟨hthreshold, hsinks⟩ := threshold_and_sinks settings h record.logger
  rw [Rules.sinksFor, hthreshold, hsinks]

end Following

/-! ## Records one after another -/

/-- Loggers that are known stay known. -/
theorem subset_of_mem_encounters {known before : List String} {records : List Record}
    {record : Record} (h : (known, record) ∈ encounters before records) : before ⊆ known := by
  induction records generalizing before with
  | nil => cases h
  | cons first rest ih =>
    rcases List.mem_cons.mp h with heq | hm
    · obtain ⟨rfl, rfl⟩ := Prod.mk.inj heq
      exact List.subset_cons_self ..
    · exact List.Subset.trans (List.subset_cons_self ..) (ih hm)

/-- Records that leave themselves once or not at all are filtered. -/
theorem flatMap_eq_filter {met : List (List String × Record)}
    {sinks : List String × Record → List Sink} {sink : Sink}
    {wanted : List String × Record → Bool} {target : List String × Record → Sink}
    (h : ∀ pair ∈ met, sinks pair = if wanted pair then [target pair] else []) :
    (met.flatMap fun pair => ((sinks pair).filter (· == sink)).map fun _ => pair.2) =
      (met.filter fun pair => wanted pair && target pair == sink).map Prod.snd := by
  induction met with
  | nil => rfl
  | cons pair rest ih =>
    rw [List.flatMap_cons, ih fun other hm => h other (List.mem_cons_of_mem _ hm),
      h pair List.mem_cons_self, List.filter_cons]
    by_cases hwanted : wanted pair = true
    · by_cases hplace : target pair = sink <;> simp [hwanted, hplace]
    · simp [hwanted]

/-- The records that reach a sink are those of enough importance that have their place there. -/
theorem reaching_rulesFor (settings : Config.Settings) (sink : Sink) (records : List Record) :
    (rulesFor settings.logLevel).reaching sink records =
      ((encounters ruledLoggers records).filter fun (known, record) =>
        decide ((needed settings known record.logger).rank ≤ record.level.rank) &&
          place known record.logger == sink).map Prod.snd := by
  rw [Rules.reaching, names_rulesFor]
  refine flatMap_eq_filter fun (known, record) hm => ?_
  have hserver : serverLogger ∈ known := subset_of_mem_encounters hm List.mem_cons_self
  simp only [sinksFor_rulesFor settings hserver record, decide_eq_true_eq]

/-! ## Records as lines -/

section Lines

variable [Json.Nesting]

/-- Writing a line does not depend on the time at which its record was created. -/
theorem isWritable_fields (line : Line) (time : String) :
    (Json.obj (line.fields time)).isWritable = line.isWritable := by
  have hmembers : ∀ (room : Nat) (members : List (String × Json)), Json.membersFit room members =
      (members.map fun member => (member.1, member.2.fits room)).all Prod.snd := by
    intro room members
    induction members with
    | nil => rfl
    | cons member rest ih => rw [Json.membersFit, ih, List.map_cons, List.all_cons]
  simp only [Line.isWritable, Json.isWritable, Json.fits, hmembers, Line.fields,
    Entries.map_insertAll]
  rfl

theorem record_of_line? {format : Config.LogFormat} {record : Record} {line : Line}
    (h : record.line? format = some line) : line.record = record := by
  obtain ⟨said, -, hline⟩ := Option.bind_eq_some_iff.mp h
  cases format with
  | console => exact congrArg Line.record (Option.some.inj hline).symm
  | json =>
    dsimp only at hline
    split at hline
    · exact congrArg Line.record (Option.some.inj hline).symm
    · cases hline

/-- Each line is that of one record, so the lines have the records that can be made into one. -/
theorem map_record_lines (format : Config.LogFormat) (records : List Record) :
    (records.filterMap (Record.line? format)).map Line.record =
      records.filter fun record => (record.line? format).isSome := by
  rw [List.map_filterMap, ← List.filterMap_eq_filter]
  refine List.filterMap_congr fun record _ => ?_
  cases hline : record.line? format with
  | none => simp [hline, Option.guard]
  | some line => simp [hline, Option.guard, record_of_line? hline]

end Lines
end OutputLemmas

open OutputLemmas

/-- After the log is set up for JSON, the announcement and the records are written in order at the
sinks of their loggers: each of them once if its level is as high as needed and a line can be made
of it, and otherwise not at all. Which loggers are above others is told by their names, but for
names with two points in a row. -/
theorem important_records_are_written_once [Json.Nesting] {settings : Config.Settings}
    (hjson : settings.logFormat = .json) (sink : Sink) (records : List Record) :
    (output settings sink records).map Line.record =
        ((encounters ruledLoggers (announcement settings :: records)).filter fun (known, record) =>
          decide ((needed settings known record.logger).rank ≤ record.level.rank) &&
            place known record.logger == sink && (record.line? .json).isSome).map Prod.snd ∧
      (∀ line ∈ output settings sink records, line.record.line? .json = some line) ∧
      ∀ known record, (known, record) ∈ encounters ruledLoggers (announcement settings :: records) →
        Plain record.logger → ∀ top ∈ ruledLoggers,
          (Within known top record.logger ↔ NamedWithin top record.logger) := by
  rw [output, hjson, reaching_rulesFor]
  refine ⟨?_, fun line hline => ?_, ?_⟩
  · rw [map_record_lines, List.filter_map, List.filter_filter]
    congr 2
    funext (known, record)
    exact Bool.and_comm ..
  · obtain ⟨record, -, hrecord⟩ := List.mem_filterMap.mp hline
    rwa [record_of_line? hrecord]
  · intro known record hm hplain top htop
    have hnames : ∀ top ∈ ruledLoggers, top ≠ "" ∧ top ≠ rootName := by decide
    exact within_iff_named hplain (subset_of_mem_encounters hm htop) (hnames top htop).1
      (hnames top htop).2

def errorSettings : Config.Settings where
  appName := "debridstream"
  environment := .dev
  service := Config.defaultService
  cache := Config.defaultCache
  logLevel := .error
  logFormat := .json

def networkWarning : Record := ⟨networkLogger, .warning, .message "slow" []⟩

/-- An error of a logger whose name has two points in a row behind that of the logger for requests.
-/
def straySuccessor : Record := ⟨"uvicorn.access..x", .error, .message "lost" []⟩

/-- An error with a text where its message has a slot for a number. -/
def unfillable : Record := ⟨"app", .error, .message "%d items" [.str "many"]⟩

attribute [local instance] Json.Nesting.usual

/-- A warning of the HTTP library and an error that cannot be filled in. -/
theorem important_records_are_written_once_of_errors :
    errorSettings.logFormat = .json ∧
      (output errorSettings .standardError [networkWarning, unfillable]).map Line.record =
        [networkWarning] := by
  refine ⟨rfl, ?_⟩
  rw [(important_records_are_written_once rfl _ _).1]
  rfl

/-- A warning of the HTTP library is written although the settings ask for errors only; with two
points in a row, a name that goes on behind that of a logger is not below it; and an error that
cannot be filled in is written nowhere. -/
theorem network_warning_is_written_below_level :
    Config.readSettings Config.plainHomes
        (.obj [("log_format", .str "json"), ("log_level", .str "ERROR")]) =
      .valid errorSettings ∧
      networkWarning.level.rank < errorSettings.logLevel.rank ∧
      (output errorSettings .standardError [networkWarning]).map Line.record = [networkWarning] ∧
      NamedWithin accessLogger straySuccessor.logger ∧
      output errorSettings .standardOutput [straySuccessor] = [] ∧
      errorSettings.logLevel.rank ≤ unfillable.level.rank ∧
      ∀ sink, output errorSettings sink [unfillable] = [] :=
  ⟨rfl, by decide, rfl, by decide, rfl, by decide, fun sink => by cases sink <;> rfl⟩

end MagnetStream.Log
