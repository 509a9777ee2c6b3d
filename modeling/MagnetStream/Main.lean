import MagnetStream.CommandLine.Report
import MagnetStream.Json.Writer

/-!
# The program

Reads the command line, the environment and the files that are named, settles the launch, and says
what is about to be served. Files of settings are read as JSON. The environment and the homes of
users are read where Linux keeps them.
-/

namespace MagnetStream.Program

/-- The variables in the text of an environment, each with the character zero behind it. Of two with
the same name the first one counts. -/
def variablesOf (text : List Char) : Config.Variables :=
  (Text.splitOnChar '\x00' text).foldl (fun vars entry =>
    let name := String.ofList (entry.takeWhile (· != '='))
    match entry.dropWhile (· != '=') with
    | _ :: value =>
      if Entries.has vars name then vars else vars ++ [(name, String.ofList value)]
    | [] => vars) []

def homesOf (text : List Char) : Entries String :=
  (Text.splitOnChar '\n' text).filterMap fun line =>
    match Text.splitOnChar ':' line with
    | [name, _, _, _, _, home, _] => some (String.ofList name, String.ofList home)
    | _ => none

/-- The text of a file, empty if it is not there. -/
def readText (name : String) : IO (List Char) := do
  try
    return Text.decodeUtf8Lossy (← IO.FS.readBinFile name).toList
  catch _ => return []

/-- The bytes of a file, if it is there, under the shortest text for its place. -/
def readFile (name : String) : IO (Entries (List UInt8)) := do
  try
    let bytes ← IO.FS.readBinFile name
    return [((Config.Directory.ofText name).toText, bytes.toList)]
  catch _ => return []

/-- Those of some places where a directory is. -/
def directories (names : List String) : IO (List String) := do
  let here ← IO.currentDir
  let found ← names.filterM fun (name : String) => (here / name).isDir
  return found.map fun name => (Config.Directory.ofText name).toText

def readFiles (options : CommandLine.Options) : IO CommandLine.Files := do
  let directories ← directories [options.config.text, options.dotenv.text]
  let settings ← readFile options.config.text
  let dotenv ← readFile options.dotenv.text
  return {
    settings := settings.map fun (place, bytes) =>
      (place, ((Json.readBytes bytes).toOption).getD .null)
    dotenv := dotenv.map fun (place, bytes) =>
      (place, Config.Variables.ofText (String.ofList (Text.decodeUtf8Lossy bytes)))
    isDirectory := directories.contains }

def finish (ending : CommandLine.Ending) : IO UInt32 := do
  IO.print ending.output
  IO.eprint ending.complaint
  return UInt32.ofNat ending.code

end MagnetStream.Program

open MagnetStream in
/-- Settles the launch and says what is about to be served. -/
def main (words : List String) : IO UInt32 := do
  match CommandLine.readOptions words with
  | .error stop => Program.finish stop.ending
  | .ok options =>
    let files ← Program.readFiles options
    let exported := Program.variablesOf (← Program.readText "/proc/self/environ")
    let homes := Program.homesOf (← Program.readText "/etc/passwd")
    match CommandLine.launch ⟨"/", homes⟩ files exported words with
    | .error fault => Program.finish fault.ending
    | .ok launch => Program.finish ⟨launch.toJson.write ++ "\n", "", 0⟩
