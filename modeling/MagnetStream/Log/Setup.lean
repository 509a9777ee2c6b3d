import MagnetStream.Config.Settings
import MagnetStream.Log.Loggers

/-!
# Setting up the log

The web server's loggers and the root follow the level of the settings, and the loggers of the HTTP
library show warnings and worse. Requests to the web server are written to standard output,
everything else to standard error, one line a record; a record that cannot be made into a line is
lost. The set-up is announced as the first event.
-/

namespace MagnetStream.Log

/-- A rule that has its own sink and keeps its records to itself. -/
def closedRule (level : Level) (sink : Sink) : Rule := ⟨some level, [sink], false⟩

def levelRule (level : Level) : Rule := ⟨some level, [], true⟩

def rulesFor (level : Level) : Rules where
  loggers := [
    ("uvicorn", closedRule level .standardError),
    ("uvicorn.error", levelRule level),
    ("uvicorn.access", closedRule level .standardOutput),
    ("httpx", levelRule .warning)]
  root := ⟨some level, [.standardError], true⟩

def levelWord (level : Level) : String := Config.wordFor Config.logLevels level

def setupLogger : String := "debridstream.infrastructure.logging.setup"

def announcement (settings : Config.Settings) : Record where
  logger := setupLogger
  level := .info
  content := .event "logging_configured" [
    ("log_format", .str (Config.wordFor Config.logFormats settings.logFormat)),
    ("log_level", .str (levelWord settings.logLevel))]

/-- A record as a line, if there can be one. The renderer for the console is not part of the program
and is taken to write whatever it gets. -/
def Record.line? [Json.Nesting] (format : Config.LogFormat) (record : Record) : Option Line := do
  let line : Line := ⟨record, ← record.content.fields?⟩
  match format with
  | .json => if line.isWritable then some line else none
  | .console => some line

/-- What is written at a sink after the log is set up: records without a line are lost. -/
def output [Json.Nesting] (settings : Config.Settings) (sink : Sink) (records : List Record) :
    List Line :=
  ((rulesFor settings.logLevel).reaching sink (announcement settings :: records)).filterMap
    (Record.line? settings.logFormat)

/-! ## The set-up as data -/

def Sink.handler : Sink → String
  | standardError => "default"
  | standardOutput => "access"

def names (xs : List String) : Json := .arr (xs.map .str)

def Rule.toJson (rule : Rule) : Json :=
  .obj ((if rule.sinks.isEmpty then [] else [("handlers", names (rule.sinks.map Sink.handler))]) ++
    (rule.level.map fun level => ("level", Json.str (levelWord level))).toList ++
    (if rule.passesOn then [] else [("propagate", .bool false)]))

/-- The ways to write a record; the first two are the web server's own. -/
def formatters (format : Config.LogFormat) : Json := .obj [
  ("default", .obj [
    ("()", .str "uvicorn.logging.DefaultFormatter"),
    ("fmt", .str "%(levelprefix)s %(message)s"),
    ("use_colors", .null)]),
  ("access", .obj [
    ("()", .str "uvicorn.logging.AccessFormatter"),
    ("fmt", .str "%(levelprefix)s %(client_addr)s - \"%(request_line)s\" %(status_code)s")]),
  ("structlog", .obj [
    ("()", .str "<ProcessorFormatter>"),
    ("foreign_pre_chain", names ["<_drop_color_message>", "<merge_contextvars>",
      "<_add_record_created_timestamp_utc>", "<add_logger_name>", "<add_log_level>"]),
    ("processors", names ["<remove_processors_meta>",
      match format with
      | .json => "<JSONRenderer>"
      | .console => "<ConsoleRenderer>"])])]

def streamHandler (stream : String) : Json := .obj [
  ("formatter", .str "structlog"),
  ("class", .str "logging.StreamHandler"),
  ("stream", .str stream)]

/-- The whole set-up as data, for the web server to take over. -/
def setup (settings : Config.Settings) : Json :=
  let rules := rulesFor settings.logLevel
  .obj [
    ("version", .int 1),
    ("disable_existing_loggers", .bool false),
    ("formatters", formatters settings.logFormat),
    ("handlers", .obj [
      (Sink.standardError.handler, streamHandler "ext://sys.stderr"),
      (Sink.standardOutput.handler, streamHandler "ext://sys.stdout")]),
    ("loggers", .obj (rules.loggers.map fun (name, rule) => (name, rule.toJson))),
    ("root", rules.root.toJson)]

end MagnetStream.Log
