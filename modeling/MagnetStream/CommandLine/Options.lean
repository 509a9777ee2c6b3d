import MagnetStream.Config.Settings

/-!
# Options of the command line

Every option but the one for help takes one value, behind an equals sign or as the next word.
Options may be shortened as long as they can be told apart. All words are recognized before any
option takes effect, and of several values for one option the last one stays.
-/

namespace MagnetStream.CommandLine

inductive Switch where
  | help
  | host
  | port
  | config
  | dotenv
  | baseUrl
  | logLevel
  | logFormat
deriving DecidableEq, Repr

/-- The names of options, in the order in which they are listed. -/
def switchNames : List (String × Switch) := [
  ("-h", .help), ("--help", .help), ("--host", .host), ("--port", .port), ("--config", .config),
  ("--dotenv", .dotenv), ("--base-url", .baseUrl), ("--log-level", .logLevel),
  ("--log-format", .logFormat)]

/-- All names of an option, as reports give them. -/
def Switch.shown (switch : Switch) : String :=
  "/".intercalate ((switchNames.filter fun (_, other) => other == switch).map Prod.fst)

inductive UsageFault where
  | ambiguous (word : String) (names : List String)
  | noValue (switch : Switch)
  | unusedValue (switch : Switch) (value : String)
  | notANumber (switch : Switch) (value : String)
  | noChoice (switch : Switch) (value : String) (choices : List String)
  | unrecognized (words : List String)
deriving DecidableEq, Repr

def UsageFault.message : UsageFault → String
  | ambiguous word names =>
    "ambiguous option: " ++ word ++ " could match " ++ ", ".intercalate names
  | noValue switch => "argument " ++ switch.shown ++ ": expected one argument"
  | unusedValue switch value =>
    "argument " ++ switch.shown ++ ": ignored explicit argument " ++ Text.quoted value
  | notANumber switch value =>
    "argument " ++ switch.shown ++ ": invalid int value: " ++ Text.quoted value
  | noChoice switch value choices =>
    "argument " ++ switch.shown ++ ": invalid choice: " ++ Text.quoted value ++ " (choose from " ++
      ", ".intercalate (choices.map Text.quoted) ++ ")"
  | unrecognized words => "unrecognized arguments: " ++ " ".intercalate words

inductive Stop where
  /-- Help was asked for. -/
  | help
  | usage (fault : UsageFault)
deriving DecidableEq, Repr

/-- What was given for an option. The mark behind which all words are plain vanishes when it is
given as a value, and leaves the option without one. -/
inductive Given (α : Type) where
  | absent
  | vanished
  | value (value : α)
deriving DecidableEq, Repr

/-- The text that was given; it is empty if there is none. -/
def Given.text : Given String → String
  | absent | vanished => ""
  | value text => text

inductive Word where
  | plain (word : String)
  /-- The mark behind which all words are plain. -/
  | divider
  | option (name : String) (switch : Switch) (value : Option String)
  | unknown (word : String)
deriving DecidableEq, Repr

/-- Whether a word is a negative number. A line end behind it does not count. -/
def isNegativeNumber (word : List Char) : Bool :=
  let isDigit (c : Char) := (Text.digitValue? c).isSome
  match word with
  | '-' :: rest =>
    let rest := if rest.getLast? == some '\n' then rest.dropLast else rest
    let (whole, behind) := Text.splitAtChar '.' rest
    match behind with
    | none => !whole.isEmpty && whole.all isDigit
    | some digits => whole.all isDigit && !digits.isEmpty && digits.all isDigit
  | _ => false

/-- The options that a word with two dashes may be short for. -/
def longMatches (word : String) : List (String × Switch × Option String) :=
  let (front, value) := Text.splitAtChar '=' word.toList
  (switchNames.filter fun (name, _) => front.isPrefixOf name.toList).map
    fun (name, switch) => (name, switch, value.map String.ofList)

/-- The options that a word with one dash may be: an option of one letter with the rest of the word
as its value. -/
def shortMatches (word : String) : List (String × Switch × Option String) :=
  let front := String.ofList (word.toList.take 2)
  (switchNames.filter fun (name, _) => name == front).map
    fun (name, switch) => (name, switch, some (String.ofList (word.toList.drop 2)))

/-- Recognizes a word that starts with a dash and is longer than that. -/
def recognizeDashed (word : String) : Except UsageFault Word :=
  let (front, value) := Text.splitAtChar '=' word.toList
  match value.bind fun value =>
      (switchNames.lookup (String.ofList front)).map fun switch => (switch, value) with
  | some (switch, value) =>
    .ok (.option (String.ofList front) switch (some (String.ofList value)))
  | none =>
    let found := if word.toList[1]? == some '-' then longMatches word else shortMatches word
    match found with
    | [(name, switch, value)] => .ok (.option name switch value)
    | _ :: _ :: _ => .error (.ambiguous word (found.map Prod.fst))
    | [] =>
      if isNegativeNumber word.toList || word.toList.contains ' ' then .ok (.plain word)
      else .ok (.unknown word)

def recognize (word : String) : Except UsageFault Word :=
  if word.toList.head? != some '-' then .ok (.plain word)
  else
    match switchNames.lookup word with
    | some switch => .ok (.option word switch none)
    | none => if word.length ≤ 1 then .ok (.plain word) else recognizeDashed word

def recognizeAll : List String → Except UsageFault (List Word)
  | [] => .ok []
  | word :: rest =>
    if word == "--" then .ok (.divider :: rest.map .plain)
    else do
      let found ← recognize word
      .ok (found :: (← recognizeAll rest))

structure Options where
  host : Given String
  port : Given Int
  config : Given String
  dotenv : Given String
  baseUrl : Given String
  logLevel : Given String
  logFormat : Given String
deriving DecidableEq, Repr

def Options.empty : Options :=
  ⟨.absent, .absent, .absent, .absent, .absent, .absent, .absent⟩

/-- Checks that a value is one of some words. -/
def choose {α : Type} (switch : Switch) (words : List (String × α)) (value : String) :
    Except Stop (Given String) :=
  if words.any fun (word, _) => word == value then .ok (.value value)
  else .error (.usage (.noChoice switch value (words.map Prod.fst)))

/-- Lets an option take effect. -/
def Options.set (options : Options) (switch : Switch) (value : String) : Except Stop Options :=
  match switch with
  | .help => .error .help
  | .host => .ok { options with host := .value value }
  | .port =>
    match Text.readInteger value with
    | .ok n => .ok { options with port := .value n }
    | .error _ => .error (.usage (.notANumber switch value))
  | .config => .ok { options with config := .value value }
  | .dotenv => .ok { options with dotenv := .value value }
  | .baseUrl => .ok { options with baseUrl := .value value }
  | .logLevel => do
    .ok { options with logLevel := ← choose switch Config.logLevels value }
  | .logFormat => do
    .ok { options with logFormat := ← choose switch Config.logFormats value }

/-- Lets an option whose value vanished take effect. -/
def Options.vanish (options : Options) : Switch → Options
  | .help => options
  | .host => { options with host := .vanished }
  | .port => { options with port := .vanished }
  | .config => { options with config := .vanished }
  | .dotenv => { options with dotenv := .vanished }
  | .baseUrl => { options with baseUrl := .vanished }
  | .logLevel => { options with logLevel := .vanished }
  | .logFormat => { options with logFormat := .vanished }

/-- What asking for help gives when something is attached to the option: the letter h again and
again asks for help too, and everything else is refused. -/
def helpWith (name value : String) : Stop :=
  if name == "-h" && !value.isEmpty then
    match (value.toList.dropWhile (· == 'h')) with
    | [] => .help
    | rest => .usage (.unusedValue .help (String.ofList rest))
  else .usage (.unusedValue .help value)

/-- Lets all words take effect one after the other; plain words and unknown options are left over.
-/
def takeEffect (options : Options) (left : List String) : List Word → Except Stop Options
  | [] => if left.isEmpty then .ok options else .error (.usage (.unrecognized left))
  | .plain word :: rest => takeEffect options (left ++ [word]) rest
  | .unknown word :: rest => takeEffect options (left ++ [word]) rest
  | .divider :: rest => takeEffect options (left ++ ["--"]) rest
  | .option name .help (some value) :: _ => .error (helpWith name value)
  | .option _ .help none :: _ => .error .help
  | .option _ switch (some value) :: rest =>
    if value == "--" then takeEffect (options.vanish switch) left rest
    else do takeEffect (← options.set switch value) left rest
  | .option _ switch none :: .plain value :: rest => do
    takeEffect (← options.set switch value) left rest
  | .option _ switch none :: _ => .error (.usage (.noValue switch))

def readOptions (words : List String) : Except Stop Options := do
  let words ← (recognizeAll words).mapError .usage
  takeEffect .empty [] words

/-- The layer of settings that options give; empty values give none. -/
def Options.layer (options : Options) : List (String × Json) :=
  let given (name : String) (value : Given String) : List (String × Json) :=
    if value.text.isEmpty then [] else [(name, .str value.text)]
  given "debrid_base_url" options.baseUrl ++ given "log_level" options.logLevel ++
    given "log_format" options.logFormat

end MagnetStream.CommandLine
