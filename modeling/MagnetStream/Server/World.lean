import MagnetStream.Http.Network
import MagnetStream.Server.Life
import MagnetStream.Storage.Medium

/-!
# A scripted world for servers

Surroundings of a server in which nothing is left to chance: the clock stands still, the medium of
the storage is one of the two plain ones, and the network replies by a script.
-/

namespace MagnetStream.Server

structure World where
  clock : Calendar.Moment
  medium : Storage.Medium
  script : List Http.Reply

inductive Mark where
  | network (mark : Http.Mark)
  | commanded (command : Storage.Command)
  | paused (seconds : Binary64)
  | logged (event : Log.Event)

namespace World

def answer : (question : Question) → World → Answer question × World × List Mark
  | .network question, world =>
    let (reply, script, marks) := Http.Network.answer question world.script
    (reply, { world with script := script }, marks.map .network)
  | .medium command, world =>
    let (result, medium) := Storage.Medium.answer world.clock.instant command world.medium
    (result, { world with medium := medium }, [.commanded command])
  | .pause seconds, world => ((), world, [.paused seconds])
  | .now, world => (world.clock, world, [])

def responder : Responder Question Answer World Mark := ⟨answer, .logged⟩

end World

/-- Lets a dialogue of a server take place in a world. -/
def Wired.runIn {α : Type} (dialogue : Wired α) (world : World) : Run World Mark α :=
  Dialogue.run World.responder dialogue world

end MagnetStream.Server
