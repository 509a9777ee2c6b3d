import MagnetStream.CommandLine.Options
import MagnetStream.Config.Load

/-!
# Starting the program

The options say which files to read and override everything else. Host and port come from the
options, or else from the environment, or else from defaults; they are settled before any file is
read. The user's own home is settled behind the file of variables, which may name it.
-/

namespace MagnetStream.CommandLine

/-- Everything that is known when the program starts to serve. -/
structure Launch where
  host : String
  port : Int
  settings : Config.Settings
deriving DecidableEq, Repr

/-- Why the program does not start. -/
inductive LaunchFault where
  | stop (stop : Stop)
  | badPort (text : String) (fault : Text.IntegerFault)
  | issues (issues : List Issue)
  | failure (failure : Failure)

/-- The most characters of a quoted text that the report on a port gives. -/
def maxShown : Nat := 200

def portMessage (text : String) : Text.IntegerFault → String
  | .malformed =>
    "invalid literal for int() with base 10: " ++
      String.ofList ((Text.quoted text).toList.take maxShown)
  | .tooLong digits => Text.tooLongMessage digits

/-- The files that are there, and at which places a directory is. -/
structure Files where
  settings : Entries Json
  dotenv : Entries Config.Variables
  isDirectory : String → Bool

/-- Looks up a file that may be named among some that are there. -/
def Files.find {α : Type} (files : Files) (found : Entries α) (name : String) : Config.File α :=
  if name.isEmpty then .none
  else
    let place := Config.Directory.ofText name
    let path := place.toText
    match found.get? path with
    | some content => .found path content
    | none =>
      if files.isDirectory path then .directory path
      else if !path.toList.contains '\x00' && place.meetsLongName files.isDirectory then
        .tooLong path
      else .missing path

/-- The host to bind: an option that is not empty, or else a variable, or else every address. -/
def hostOf (options : Options) (exported : Config.Variables) : String :=
  match options.host.text with
  | "" => (exported.lookup "HOST").getD "0.0.0.0"
  | host => host

/-- The port to bind: an option that is not zero, or else a variable, or else 7980. -/
def portOf (options : Options) (exported : Config.Variables) : Except LaunchFault Int :=
  match options.port with
  | .value port => if port = 0 then fallback else .ok port
  | .absent | .vanished => fallback
where
  fallback : Except LaunchFault Int :=
    let text := (exported.lookup "PORT").getD "7980"
    (Text.readInteger text).mapError (.badPort text)

/-- The homes once all variables are set: the user's own one is where a variable says. -/
def homesFor (homes : Config.Homes) (sources : Config.Sources) : Config.Homes :=
  match sources.allVariables with
  | .ok vars => { homes with own := (vars.lookup "HOME").getD homes.own }
  | .error _ => homes

def sourcesOf (files : Files) (exported : Config.Variables) (options : Options) : Config.Sources :=
  ⟨files.find files.settings options.config.text, files.find files.dotenv options.dotenv.text,
    exported, options.layer⟩

/-- Settles everything before the program serves. -/
def launch [Json.Nesting] (homes : Config.Homes) (files : Files) (exported : Config.Variables)
    (words : List String) : Except LaunchFault Launch := do
  let options ← (readOptions words).mapError .stop
  let host := hostOf options exported
  let port ← portOf options exported
  let sources := sourcesOf files exported options
  match Config.load (homesFor homes sources) sources with
  | .valid settings => .ok ⟨host, port, settings⟩
  | .invalid issues => .error (.issues issues)
  | .broken failure => .error (.failure failure)

end MagnetStream.CommandLine
