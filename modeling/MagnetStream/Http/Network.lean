import MagnetStream.Http.Transport

/-!
# A scripted network

A network that replies by a script, and breaks every connection once the script is over. Every
request that reaches it leaves a mark.
-/

namespace MagnetStream.Http

inductive Mark where
  | sent (request : Outgoing)
  | logged (event : Log.Event)

namespace Network

/-- What stands for the build of the browser. -/
def build : String := "<build>"

def answer : (question : Question) → List Reply → Answer question × List Reply × List Mark
  | .build, script => (build, script, [])
  | .exchange request, [] => (.broken "script exhausted", [], [.sent request])
  | .exchange request, reply :: rest => (reply, rest, [.sent request])

def responder : Responder Question Answer (List Reply) Mark := ⟨answer, .logged⟩

end Network
end MagnetStream.Http
