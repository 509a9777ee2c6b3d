import MagnetStream.Client.Basic
import MagnetStream.Http.Transport
import MagnetStream.Storage.Basic

/-!
# Wiring

A server answers what its client asks by what it has itself: requests go through the transport to
the network, confirmations are kept in a storage that is open, and only pauses and the clock are
asked for outside.
-/

namespace MagnetStream.Server

inductive Question where
  | network (question : Http.Question)
  | medium (command : Storage.Command)
  | pause (seconds : Binary64)
  | now

@[reducible] def Answer : Question → Type
  | .network question => Http.Answer question
  | .medium command => Storage.Answer command
  | .pause _ => Unit
  | .now => Calendar.Moment

/-- A dialogue of a server with its surroundings. -/
abbrev Wired (α : Type) := Dialogue Question Answer α

def onNetwork {α : Type} (dialogue : Dialogue Http.Question Http.Answer α) : Wired α :=
  dialogue.through fun question => .query (Question.network question)

def onMedium {α : Type} (action : Storage.Action α) : Wired α :=
  action.through fun command => .query (Question.medium command)

/-- Answers a question of the client. -/
def wire (extra : Entries String) (storage : Storage) :
    (question : Client.Question) → Wired (Client.Answer question)
  | .send call => onNetwork (Http.Transport.send extra call).attempt
  | .pause seconds => .query (Question.pause seconds)
  | .now => .query Question.now
  | .recall key => onMedium (storage.get true key).attempt
  | .record key entry ttl => onMedium (storage.set true key entry (some ttl)).attempt

/-- Holds a session of the client with what the server has. -/
def wired {α : Type} (extra : Entries String) (storage : Storage) (session : Client.Session α) :
    Wired α :=
  session.through (wire extra storage)

end MagnetStream.Server
