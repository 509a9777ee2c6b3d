import MagnetStream.Checked
import MagnetStream.Http.Form
import MagnetStream.Http.Header
import MagnetStream.Url.Split

/-!
# Requests to the server and their responses

What callers send to the server, and what they get from it.
-/

namespace MagnetStream.Server

/-- A request of a caller. The origin is scheme and host as the caller writes them; the path is
without escapes, and the query as the URL has it. -/
structure Request where
  method : String
  origin : String
  path : String
  query : String
  headers : List (String × String)
  body : List UInt8
deriving DecidableEq, Repr

def Request.header? (request : Request) (name : String) : Option String :=
  Http.header? request.headers name

/-- The last value of a field of the query. -/
def Request.field? (request : Request) (name : String) : Option String :=
  (Http.Form.decode request.query.toList).reverse.lookup name

/-- The place on this server with a path and the same query. -/
def Request.placeAt (request : Request) (path : String) : String :=
  request.origin ++ path ++ (if request.query.isEmpty then "" else "?" ++ request.query)

/-- The path of a request as reports give it: as the place that was asked for is cut. -/
def Request.shownPath (request : Request) : String :=
  match Url.split (request.placeAt request.path).toList with
  | .ok parts => String.ofList parts.path
  | .error _ => request.path

inductive Content where
  | json (value : Json)
  | text (text : String)
  /-- What is wrong with the request. -/
  | issues (issues : List Issue)
deriving Repr

structure Response where
  status : Nat
  content : Content
  location : Option String
deriving Repr

namespace Response

def empty (status : Nat) : Response := ⟨status, .text "", none⟩

def ofJson (status : Nat) (value : Json) : Response := ⟨status, .json value, none⟩

/-- A response that says what is the matter. -/
def detail (status : Nat) (reason : String) : Response :=
  .ofJson status (.obj [("detail", .str reason)])

/-- The characters of a place that are not escaped: what is unreserved and what gives a URL its
form. -/
def isPlaceSafe (c : Char) : Bool :=
  Url.isUnreserved c || ":/%#?=@[]!$&'()*+,;".toList.contains c

/-- A response that sends the caller to another place. -/
def redirection (place : String) : Response :=
  ⟨307, .text "", some (String.ofList (Url.escape isPlaceSafe place.toList))⟩

end Response
end MagnetStream.Server
