import MagnetStream.Dialogue

/-!
# Sessions with the service

What a client needs from its surroundings: requests to the service, pauses, the clock, and a cache
that may fail. A session is a dialogue of these questions.
-/

namespace MagnetStream.Client

/-- The two kinds of requests. -/
inductive Method where
  | get
  | post
deriving DecidableEq, Repr

def Method.word : Method → String
  | get => "GET"
  | post => "POST"

/-- A request to the service: the caller's token goes with it, and a post carries a form. -/
structure Call where
  method : Method
  url : String
  token : String
  form : Option (List (String × String))
deriving DecidableEq, Repr

inductive Question where
  | send (call : Call)
  | pause (seconds : Binary64)
  | now
  | recall (key : String)
  | record (key : String) (entry : Json) (ttl : Int)

/-- What the answer to a question is. An entry that is not there is null. -/
@[reducible] def Answer : Question → Type
  | .send _ => Except Failure (List UInt8)
  | .pause _ => Unit
  | .now => Calendar.Moment
  | .recall _ => Except Failure Json
  | .record .. => Except Failure Unit

/-- A dialogue of a client with its surroundings. -/
abbrev Session (α : Type) := Dialogue Question Answer α

namespace Session

def get (token url : String) : Session (List UInt8) :=
  .ask (.send ⟨.get, url, token, none⟩) .lift

def post (token url : String) (form : List (String × String)) : Session (List UInt8) :=
  .ask (.send ⟨.post, url, token, some form⟩) .lift

def pause (seconds : Binary64) : Session Unit := .query (Question.pause seconds)

def now : Session Calendar.Moment := .query Question.now

end Session

/-- Reads a response as an object. The purpose of the request opens every report on it. -/
def readObject [Json.Nesting] (purpose : String) (body : List UInt8) :
    Except Failure (List (String × Json)) :=
  match Json.readBytes body with
  | .ok (.obj members) => .ok members
  | .ok value => .error (.badResponse (.notObject purpose value.kindName))
  | .error .notText => .error (.badResponse (.notJson purpose))
  | .error (.fault (.malformed ..)) => .error (.badResponse (.notJson purpose))
  | .error (.fault (.limit limit)) => .error (.jsonLimit limit)

/-- A text member with something in it. -/
def textMember (purpose key : String) (members : List (String × Json)) : Except Failure String :=
  match Entries.get? members key with
  | some (.str text) =>
    if text.isEmpty then .error (.badResponse (.missingKey purpose key)) else .ok text
  | _ => .error (.badResponse (.missingKey purpose key))

end MagnetStream.Client
