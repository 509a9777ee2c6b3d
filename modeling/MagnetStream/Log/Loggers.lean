import MagnetStream.Log.Record

/-!
# The hierarchy of loggers

The name of a logger is a path of names with points between them. A logger is known once it has a
rule or a record, and only known loggers are above others. A rule for a logger may set a level and
name sinks. A logger without a level of its own has the level of the nearest logger above it that
has one. A record that passes its logger's level goes to the sinks of that logger and of all loggers
above it, up to the first one that keeps its records to itself; the levels of those are not asked.
-/

namespace MagnetStream.Log

inductive Sink where
  | standardError
  | standardOutput
deriving DecidableEq, Repr

structure Rule where
  level : Option Level
  sinks : List Sink
  passesOn : Bool
deriving DecidableEq, Repr

/-- Rules for some loggers, and for the one above all others. -/
structure Rules where
  loggers : Entries Rule
  root : Rule

/-- The known names above a name that is read from its end, the nearest first. What stands in front
of a point is above the name. Unless it is known, its last character is passed over, so that of two
points in a row only the second one counts. -/
def knownAbove (known : List String) : List Char → List String
  | '.' :: last :: rest =>
    let above := String.ofList (last :: rest).reverse
    if known.contains above then above :: knownAbove known (last :: rest)
    else knownAbove known rest
  | _ :: rest => knownAbove known rest
  | [] => []

/-- A name and the known names above it, the nearest first. The logger above all others has none. -/
def lineage (known : List String) (logger : String) : List String :=
  if logger.isEmpty || logger == rootName then []
  else logger :: knownAbove known logger.toList.reverse

/-- Records with the loggers that are known when they are logged, their own ones among them. -/
def encounters (known : List String) : List Record → List (List String × Record)
  | [] => []
  | record :: rest =>
    let known := record.logger :: known
    (known, record) :: encounters known rest

namespace Rules

variable (rules : Rules) (known : List String)

/-- The rules that bear on a logger, the nearest first and the root's last. -/
def bearingOn (logger : String) : List Rule :=
  (lineage known logger).filterMap rules.loggers.get? ++ [rules.root]

/-- The level that a record needs: the nearest one that is set. -/
def threshold (logger : String) : Level :=
  ((rules.bearingOn known logger).findSome? Rule.level).getD .warning

/-- The sinks of rules up to the first that does not pass records on. -/
def collectSinks : List Rule → List Sink
  | [] => []
  | rule :: rest => rule.sinks ++ if rule.passesOn then collectSinks rest else []

def sinksFor (record : Record) : List Sink :=
  if (rules.threshold known record.logger).rank ≤ record.level.rank then
    collectSinks (rules.bearingOn known record.logger)
  else []

def reaching (sink : Sink) (records : List Record) : List Record :=
  (encounters rules.loggers.names records).flatMap fun (known, record) =>
    ((rules.sinksFor known record).filter (· == sink)).map fun _ => record

end Rules
end MagnetStream.Log
