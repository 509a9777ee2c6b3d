import MagnetStream.Client.Session
import MagnetStream.Http.Coding.Basic
import MagnetStream.Http.Form
import MagnetStream.Http.Header
import MagnetStream.Http.MediaType
import MagnetStream.Text.Base64
import MagnetStream.Text.Charset
import MagnetStream.Url.Redirect

/-!
# Transport of requests

A request of the client goes over the network with the caller's token, the extra headers and the
name of a browser. What comes back is a body or a failure, depending on the status: 401 and 403 say
something about the caller, and every other status but the successful ones is reported with the
body.
-/

namespace MagnetStream.Http

/-- A request as it goes over the network. The names of its headers are in small letters. -/
structure Outgoing where
  method : Client.Method
  target : Url.Target
  headers : List (String × String)
  body : String
deriving DecidableEq, Repr

/-- What the network makes of a request. -/
inductive Reply where
  | response (status : Int) (headers : List (String × String)) (body : List UInt8)
  /-- The connection broke. -/
  | broken (reason : String)
  /-- Something failed that is no fault of the connection. -/
  | raised (failure : Failure)

/-- What the transport asks: which build the browser has that it goes by, and to exchange a request
for a reply. -/
inductive Question where
  | build
  | exchange (request : Outgoing)

@[reducible] def Answer : Question → Type
  | .build => String
  | .exchange _ => Reply

namespace Transport

/-- The browser that the transport goes by. -/
def userAgent (build : String) : String :=
  "Mozilla/5.0 (Windows NT 10.0; Win64; x64) AppleWebKit/537.36 (KHTML, like Gecko) Chrome/80.0." ++
    build ++ ".149 Safari/537.36"

/-- The headers of a request: the extra ones, the token and the browser. -/
def headers (extra : Entries String) (build token : String) : Entries String :=
  (extra.insert "Authorization" ("Bearer " ++ token)).insert "User-Agent" (userAgent build)

/-- Checks that a text can be sent in a header. A failure names the first row of characters that
cannot. -/
def checkAscii (text : String) : Except Failure Unit :=
  let (before, rest) := text.toList.span (·.toNat < 128)
  if rest.isEmpty then .ok ()
  else
    let row := rest.takeWhile (128 ≤ ·.toNat)
    .error (.unencodable text before.length (before.length + row.length - 1))

/-- Headers as they go over the network. -/
def encodeHeaders : List (String × String) → Except Failure (List (String × String))
  | [] => .ok []
  | (name, value) :: rest => do
    checkAscii name
    checkAscii value
    let rest ← encodeHeaders rest
    .ok ((String.ofList (Text.lower name.toList), value) :: rest)

/-- Puts a value in the place of the first header with a name and drops all others. -/
def setHeader (name value : String) : List (String × String) → List (String × String)
  | [] => [(name, value)]
  | (other, old) :: rest =>
    if other == name then (name, value) :: rest.filter (·.1 != name)
    else (other, old) :: setHeader name value rest

def basicAuthorization (user password : List Char) : String :=
  let bytes := Text.encodeUtf8 (String.ofList (user ++ ':' :: password))
  "Basic " ++ String.ofList (Text.base64 bytes)

/-- A URL that names a user or a password is authorized by them instead of the token. -/
def authorize (target : Url.Target) (headers : List (String × String)) :
    List (String × String) :=
  let (user, password) := target.userAndPassword
  if user.isEmpty && password.isEmpty then headers
  else setHeader "authorization" (basicAuthorization user password) headers

/-- A form that is not empty tells its media type, unless the extra headers do. -/
def describeForm (fields headers : List (String × String)) : List (String × String) :=
  if fields.isEmpty || headers.any (·.1 == "content-type") then headers
  else headers ++ [("content-type", Form.mediaType)]

/-- The host of a request is named to the network in the form that is read, unless a header does so
already. -/
def checkHost (target : Url.Target) (headers : List (String × String)) : Except Failure Unit :=
  if headers.any (·.1 == "host") then .ok ()
  else (target.readableHost.map fun _ => ()).mapError .badTarget

/-- Brings a call into the form that goes over the network. -/
def prepare (extra : Entries String) (build : String) (call : Client.Call) :
    Except Failure Outgoing := do
  let target ← (Url.Target.read call.url.toList).mapError .badTarget
  let target := target.rooted
  let encoded ← encodeHeaders (headers extra build call.token)
  checkHost target encoded
  let fields := call.form.getD []
  .ok ⟨call.method, target, authorize target (describeForm fields encoded),
    String.ofList (Form.encode fields)⟩

def successes : Client.Method → List Int
  | .get => [200]
  | .post => [200, 201, 204]

/-- The statuses that name another place. -/
def redirections : List Int := [301, 302, 303, 307, 308]

def place? (status : Int) (headers : List (String × String)) : Option String :=
  if redirections.contains status then header? headers "location" else none

/-- The text of a response, in the character set that its headers name if it is known. -/
def bodyText (headers : List (String × String)) (body : List UInt8) : Except Failure String :=
  let charset := (header? headers "content-type").bind fun type =>
    (MediaType.charset? type).bind Text.Charset.ofName?
  match charset with
  | some charset => ((charset.decode body).map String.ofList).mapError .unreadable
  | none => .ok (String.ofList (Text.decodeUtf8Lossy body))

/-- Reports that a call did not get through. -/
def breakOff (call : Client.Call) (reason : String) : Dialogue Question Answer (List UInt8) := do
  .log .warning "debrid_request_failed"
    [("method", .str call.method.word), ("url", .str call.url), ("error", .str reason)]
  .fail (.unsent call.method.word call.url reason)

/-- What a status brings. -/
def settle (call : Client.Call) (status : Int) (headers : List (String × String))
    (body : List UInt8) : Dialogue Question Answer (List UInt8) :=
  if (successes call.method).contains status then pure body
  else if status = 401 then .fail (.reported .invalidCredential ["Invalid token"])
  else if status = 403 then .fail (.reported .accountLocked ["Account locked"])
  else do
    .log .warning "debrid_http_error"
      [("method", .str call.method.word), ("url", .str call.url), ("status", .int status)]
    let text ← .lift (bodyText headers body)
    .fail (.badStatus status call.method.word call.url text)

/-- What a response brings. It is of no use if the request named no place, or if it points to a
place that makes no target. -/
def receiveResponse (call : Client.Call) (asked : Url.Target) (status : Int)
    (headers : List (String × String)) (body : List UInt8) :
    Dialogue Question Answer (List UInt8) :=
  if !asked.isPlaced then .fail (.noPlace asked.toText)
  else
    match (place? status headers).map fun place => Url.Target.read place.toList with
    | none => settle call status headers body
    | some (.error fault) =>
      breakOff call ("Invalid URL in location header: " ++ fault.message ++ ".")
    | some (.ok place) =>
      match asked.checkRedirect place with
      | .error fault => .fail (.badTarget fault)
      | .ok () => settle call status headers body

/-- What a reply to a request brings. A body that cannot be unpacked is as good as no response. -/
def receive (call : Client.Call) (asked : Url.Target) :
    Reply → Dialogue Question Answer (List UInt8)
  | .broken reason => breakOff call reason
  | .raised failure => .fail failure
  | .response status headers body =>
    match Coding.decodeAll headers body with
    | .error fault => breakOff call fault.message
    | .ok body => receiveResponse call asked status headers body

def send (extra : Entries String) (call : Client.Call) : Dialogue Question Answer (List UInt8) := do
  let build ← .query Question.build
  let request ← .lift (prepare extra build call)
  receive call request.target (← .query (Question.exchange request))

end Transport
end MagnetStream.Http
