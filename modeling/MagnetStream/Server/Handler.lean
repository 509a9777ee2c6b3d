import MagnetStream.Server.Parameters

/-!
# Handling requests

A request is answered by what the client brings. A failure of a family that callers know is answered
with its status and its report; any other failure is an error of the server. Every request is logged
with the status of its response, and never with its query or its headers.
-/

namespace MagnetStream.Server

/-- How many hashes a request asks about. -/
def requested : Client.Request → Nat
  | .check _ (.many hashes) => hashes.length
  | _ => 0

/-- The response to what the client brings. -/
def deliver (asked : Client.Request) : Client.Response → Client.Session Response
  | .valid => pure (.empty 204)
  | .available hashes => do
    .log .info "availability_response"
      [("requested", .int (requested asked)), ("available", .int hashes.length)]
    pure (.ofJson 200 (.obj [("available", .arr (hashes.map .str))]))
  | .streamUrl url => pure (.redirection url)

/-- The response to a failure of the client. -/
def report (path : String) (failure : Failure) : Client.Session Response :=
  match failure.family? with
  | none => pure ⟨500, .text "Internal Server Error", none⟩
  | some family => do
    let status := family.httpStatus
    .log .warning "debrid_request_failed"
      [("path", .str path), ("error_type", .str family.name), ("error", .str failure.message),
        ("status_code", .int status)]
    pure (.ofJson status
      (.obj [("error", .str family.name), ("detail", .str failure.message)]))

def serve [Json.Nesting] (client : Client) (request : Request) (endpoint : Endpoint) :
    Client.Session Response :=
  match readParameters request endpoint with
  | .error refusal => pure refusal.response
  | .ok none => pure (.ofJson 200 (.obj [("status", .str "ok")]))
  | .ok (some asked) => do
    match ← (client.serve asked).attempt with
    | .ok brought => deliver asked brought
    | .error failure => report request.shownPath failure

def respond [Json.Nesting] (client : Client) (request : Request) : Client.Session Response :=
  match route request.method request.path with
  | .endpoint endpoint => serve client request endpoint
  | .wrongMethod => pure (.detail 405 "Method Not Allowed")
  | .elsewhere path => pure (.redirection (request.placeAt path))
  | .nowhere => pure (.detail 404 "Not Found")

/-- A response as it goes out: a request for the head of a response gets nothing else. -/
def Response.trimmed (method : String) (response : Response) : Response :=
  if method == "HEAD" then { response with content := .text "" } else response

def handle [Json.Nesting] (client : Client) (address : String) (request : Request) :
    Client.Session Response := do
  let response ← respond client request
  .log .info "http_request"
    [("method", .str request.method), ("path", .str request.shownPath),
      ("status_code", .int response.status), ("client_host", .str address)]
  pure (response.trimmed request.method)

end MagnetStream.Server
