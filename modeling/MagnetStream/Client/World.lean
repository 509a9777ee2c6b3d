import MagnetStream.Client.Basic

/-!
# A scripted world for sessions

Surroundings in which nothing is left to chance: the service answers by a script, the cache is a
table that keeps its entries for good and fails on demand, and the clock moves only between
sessions. Every deed of a session leaves a mark.
-/

namespace MagnetStream.Client

/-- What the service does when a request reaches it. -/
abbrev Reply := Except Failure (List UInt8)

inductive Mark where
  | called (call : Call)
  | paused (seconds : Binary64)
  | recalled (key : String)
  | recorded (key : String) (entry : Json) (ttl : Int)
  | logged (event : Log.Event)

/-- Surroundings of a session: the clock, the entries of the cache, what reading and writing them
fails with, if they fail, and the replies that the service still has. -/
structure World where
  clock : Calendar.Moment
  entries : Entries Json
  readFailure : Option Failure
  writeFailure : Option Failure
  script : List Reply

namespace World

/-- What the service does when it has no reply left. -/
def exhausted : Failure := .reported .transport ["script exhausted"]

/-- Answers a question of a session. A key of the cache is marked even if reading or writing it
fails, and so is a request. -/
def answer : (question : Question) → World → Answer question × World × List Mark
  | .send call, world =>
    match world.script with
    | [] => (.error exhausted, world, [.called call])
    | reply :: rest => (reply, { world with script := rest }, [.called call])
  | .pause seconds, world => ((), world, [.paused seconds])
  | .now, world => (world.clock, world, [])
  | .recall key, world =>
    match world.readFailure with
    | some failure => (.error failure, world, [.recalled key])
    | none => (.ok ((world.entries.get? key).getD .null), world, [.recalled key])
  | .record key entry ttl, world =>
    match world.writeFailure with
    | some failure => (.error failure, world, [.recorded key entry ttl])
    | none =>
      (.ok (), { world with entries := world.entries.insert key entry },
        [.recorded key entry ttl])

def responder : Responder Question Answer World Mark := ⟨answer, .logged⟩

end World

/-- Lets a session take place in a world. -/
def Session.runIn {α : Type} (session : Session α) (world : World) : Run World Mark α :=
  Dialogue.run World.responder session world

/-- What may happen between sessions: the clock moves, an entry of the cache is put or taken away,
and the cache starts or stops to fail. -/
inductive Turn where
  | advance (span : Calendar.Duration)
  | put (key : String) (entry : Json)
  | fail (reading writing : Option Failure)
  | request (request : Request) (script : List Reply)

/-- What is seen of a turn. -/
inductive Outcome where
  | moved (clock : Calendar.Moment)
  | stuck (failure : Failure)
  | changed
  | served (result : Except Failure Response) (trace : List Mark) (unused : Nat)

def takeTurn [Json.Nesting] (client : Client) (world : World) : Turn → Outcome × World
  | .advance span =>
    match world.clock.advance? span with
    | some clock => (.moved clock, { world with clock := clock })
    | none => (.stuck .outsideCalendar, world)
  | .put key .null => (.changed, { world with entries := world.entries.erase key })
  | .put key entry => (.changed, { world with entries := world.entries.insert key entry })
  | .fail reading writing =>
    (.changed, { world with readFailure := reading, writeFailure := writing })
  | .request request script =>
    let run := (client.serve request).runIn { world with script := script }
    (.served run.result run.trace run.state.script.length, run.state)

def takeTurns [Json.Nesting] (client : Client) : World → List Turn → List Outcome × World
  | world, [] => ([], world)
  | world, turn :: rest =>
    let (outcome, world) := takeTurn client world turn
    let (outcomes, world) := takeTurns client world rest
    (outcome :: outcomes, world)

end MagnetStream.Client
