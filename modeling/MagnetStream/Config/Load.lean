import MagnetStream.Config.Variables

/-!
# Loading settings

Four layers make the settings: the defaults, a file, the variables of the environment, and the
options of the command line. The later layer wins, setting by setting.
-/

namespace MagnetStream.Config

/-- A file that may have been named, and may be there. A directory may stand in its place, and its
name may be too long to look it up. -/
inductive File (α : Type) where
  | none
  | missing (path : String)
  | directory (path : String)
  | tooLong (path : String)
  | found (path : String) (content : α)

structure Sources where
  file : File Json
  variablesFile : File Variables
  exported : Variables
  options : Layer

/-- All variables: the exported ones, and those of a file, which must be there if it is named. A
directory has none. -/
def Sources.allVariables (sources : Sources) : Except Failure Variables :=
  match sources.variablesFile with
  | .none | .directory _ => .ok sources.exported
  | .missing path => .error (.missingFile path)
  | .tooLong path => .error (.nameTooLong path)
  | .found _ content => sources.exported.withFile content

/-- The layer of the file, which must be there if it is named. An empty file has no settings. -/
def Sources.fileLayer (sources : Sources) : Except Failure Layer :=
  match sources.file with
  | .none => .ok []
  | .missing path => .error (.missingFile path)
  | .directory path => .error (.fileIsDirectory path)
  | .tooLong path => .error (.nameTooLong path)
  | .found _ .null => .ok []
  | .found _ (.obj members) => .ok members
  | .found path value => .error (.notAMapping path value.kindName)

/-- All layers laid over each other. -/
def merged (file vars options : Layer) : Layer :=
  ((((Layer.normalize Layer.defaults).coveredBy file).coveredBy vars).coveredBy options)

def load [Json.Nesting] (homes : Homes) (sources : Sources) : Checked Settings :=
  match sources.allVariables with
  | .error failure => .broken failure
  | .ok vars =>
    match sources.fileLayer with
    | .error failure => .broken failure
    | .ok file =>
      (vars.layer homes).bind fun layer =>
        readSettings homes (.obj (merged file layer sources.options))

end MagnetStream.Config
