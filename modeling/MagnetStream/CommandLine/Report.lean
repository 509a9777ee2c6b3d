import MagnetStream.CommandLine.Launch
import MagnetStream.Log.Setup

/-!
# Reports of the command line

What the program says when it stops before it serves, and what it says when it is ready.
-/

namespace MagnetStream.CommandLine

/-- The program is run with the usual room. -/
instance : Json.Nesting := .usual

def usage : String :=
  "usage: debridstream [-h] [--host HOST] [--port PORT] [--config CONFIG]\n" ++
  "                    [--dotenv DOTENV] [--base-url BASE_URL]\n" ++
  "                    [--log-level \x7bDEBUG,INFO,WARNING,ERROR\x7d]\n" ++
  "                    [--log-format \x7bjson,console\x7d]\n"

def help : String :=
  usage ++ "\noptions:\n" ++
  "  -h, --help            show this help message and exit\n" ++
  "  --host HOST           Bind host (overrides HOST env).\n" ++
  "  --port PORT           Bind port (overrides PORT env).\n" ++
  "  --config CONFIG       Path to YAML config file.\n" ++
  "  --dotenv DOTENV       Path to .env file.\n" ++
  "  --base-url BASE_URL   Override debrid API base URL (e.g. a proxy).\n" ++
  "  --log-level \x7bDEBUG,INFO,WARNING,ERROR\x7d\n" ++
  "                        Override log level.\n" ++
  "  --log-format \x7bjson,console\x7d\n" ++
  "                        Override log format.\n"

/-- What the program leaves behind when it stops: what it writes, what it complains about, and its
exit code. -/
structure Ending where
  output : String
  complaint : String
  code : Nat
deriving DecidableEq, Repr

/-- The end after a command line that is not acted on. -/
def Stop.ending : Stop → Ending
  | .help => ⟨CommandLine.help, "", 0⟩
  | .usage fault =>
    ⟨"", CommandLine.usage ++ "debridstream: error: " ++ fault.message ++ "\n", 2⟩

def issueLine (issue : Issue) : String :=
  let place := issue.path.map fun
    | .member name => name
    | .item index => toString index
  let reason := match issue.problem with
    | .refused reason => reason
    | problem => problem.code
  ".".intercalate place ++ ": " ++ reason ++ "\n"

/-- The end of a program that does not come to serve. -/
def LaunchFault.ending : LaunchFault → Ending
  | .stop reason => reason.ending
  | .badPort text fault => ⟨"", portMessage text fault ++ "\n", 1⟩
  | .issues found => ⟨"", String.join (found.map issueLine), 1⟩
  | .failure reason => ⟨"", reason.message ++ "\n", 1⟩

/-- What is bound, where, and how the log is set up. -/
def Launch.toJson (launch : Launch) : Json := .obj [
  ("host", .str launch.host), ("port", .int launch.port),
  ("base_url", .str launch.settings.service.baseUrl), ("logging", Log.setup launch.settings)]

end MagnetStream.CommandLine
