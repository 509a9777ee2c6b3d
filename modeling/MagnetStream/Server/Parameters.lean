import MagnetStream.Client.Basic
import MagnetStream.Config.Settings
import MagnetStream.Http.Bearer
import MagnetStream.Http.MediaType
import MagnetStream.Server.Route

/-!
# Parameters of requests

What a request says is checked before the client is asked for anything: first its body or its query,
then its token.
-/

namespace MagnetStream.Server

/-- Why a request is turned away. -/
inductive Refusal where
  | unauthorized
  | invalid (issues : List Issue)
  | unreadableBody
deriving Repr

/-- The response to a request that is turned away. -/
def Refusal.response : Refusal → Response
  | unauthorized => .detail 401 "Missing bearer token"
  | invalid issues => ⟨422, .issues issues, none⟩
  | unreadableBody => .detail 400 "There was an error parsing the body"

/-- A value that was checked, or the reason to turn the request away. -/
def accept {α : Type} : Checked α → Except Refusal α
  | .valid value => .ok value
  | .invalid issues => .error (.invalid issues)
  | .broken _ => .error .unreadableBody

def bodyIssue {α : Type} (problem : Problem) : Except Refusal α :=
  accept ((Checked.problem problem).under (.member "body"))

/-- Whether the body is to be read as JSON: if nothing else is said about it. -/
def Request.hasJson (request : Request) : Bool :=
  match request.header? "content-type" with
  | none => true
  | some type => type.isEmpty || Http.MediaType.isJson type

/-- The hashes that a value asks about; an object that names none asks about none. -/
def hashesOf : Json → Except Refusal (List String)
  | .null => bodyIssue .missing
  | .obj members =>
    accept ((Config.member members "info_hashes" [] Config.readTexts).under (.member "body"))
  | _ => bodyIssue .objectType

/-- The hashes that the body asks about. -/
def readHashes [Json.Nesting] (request : Request) : Except Refusal (List String) :=
  if request.body.isEmpty then bodyIssue .missing
  else if request.hasJson then
    match Json.readBytes request.body with
    | .ok value => hashesOf value
    | .error (.fault (.malformed _ offset)) =>
      .error (.invalid [⟨[.member "body", .item offset], .malformedJson⟩])
    | .error _ => .error .unreadableBody
  else bodyIssue .objectType

def readMagnet (request : Request) : Checked String :=
  match request.field? "magnet" with
  | none => .problem .missing
  | some magnet => if magnet.isEmpty then .problem .tooShort else .valid magnet

def truthWords : List (String × Bool) := [
  ("true", true), ("t", true), ("yes", true), ("y", true), ("on", true), ("1", true),
  ("false", false), ("f", false), ("no", false), ("n", false), ("off", false), ("0", false)]

def readRemote (request : Request) : Checked Bool :=
  match request.field? "remote" with
  | none => .valid false
  | some word =>
    match truthWords.lookup (String.ofList (Text.lower word.toList)) with
    | some flag => .valid flag
    | none => .problem .boolParsing

/-- The magnet link and the remote flag in the query. -/
def readQuery (request : Request) : Checked (String × Bool) :=
  (Prod.mk <$> (readMagnet request).under (.member "magnet")
    <*> (readRemote request).under (.member "remote")).under (.member "query")

def readToken (request : Request) : Except Refusal String :=
  match (request.header? "authorization").bind Http.bearerToken? with
  | some token => .ok token
  | none => .error .unauthorized

/-- What the client is asked for at an endpoint; a sign of life needs no client. -/
def readParameters [Json.Nesting] (request : Request) :
    Endpoint → Except Refusal (Option Client.Request)
  | .health => .ok none
  | .validate => do
    .ok (some (.validate (← readToken request)))
  | .availability => do
    let hashes ← readHashes request
    .ok (some (.check (← readToken request) (.many hashes)))
  | .stream => do
    let (magnet, remote) ← accept (readQuery request)
    .ok (some (.stream (← readToken request) magnet remote))

end MagnetStream.Server
