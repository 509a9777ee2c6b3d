import MagnetStream.Text.Integer
import MagnetStream.Url.HostName
import MagnetStream.Url.Percent
import MagnetStream.Url.Split

/-!
# Targets of requests

Before a request is sent, its URL is brought into the one form that goes over the wire: scheme and
host in small letters, the usual port of a scheme left out, points in the path resolved, and every
character that may not stand for itself escaped. A percent sign stays as it is, so that what is
already escaped is not escaped again.
-/

namespace MagnetStream.Url

inductive TargetFault where
  | tooLong
  | control (c : Char) (position : Nat)
  | controlInFragment (c : Char) (position : Nat)
  | badIPv4 (host : List Char)
  | badIPv6 (host : List Char)
  | badName (host : List Char)
  /-- The form of a host name that is read is not to be had. -/
  | unreadableName (fault : NameFault)
  | badPort (port : List Char)
  | pathBesideHost
  | slashesInFront
  | colonInFront
deriving DecidableEq, Repr

def TargetFault.message : TargetFault → String
  | tooLong => "URL too long"
  | control c position =>
    "Invalid non-printable ASCII character in URL, " ++ Text.quoted (String.singleton c) ++
      " at position " ++ toString position ++ "."
  | controlInFragment c position =>
    "Invalid non-printable ASCII character in URL fragment component, " ++
      Text.quoted (String.singleton c) ++ " at position " ++ toString position ++ "."
  | badIPv4 host => "Invalid IPv4 address: " ++ Text.quoted (String.ofList host)
  | badIPv6 host => "Invalid IPv6 address: " ++ Text.quoted (String.ofList host)
  | badName host => "Invalid IDNA hostname: " ++ Text.quoted (String.ofList host)
  | unreadableName fault => fault.message
  | badPort port => "Invalid port: " ++ Text.quoted (String.ofList port)
  | pathBesideHost => "For absolute URLs, path must be empty or begin with '/'"
  | slashesInFront => "Relative URLs cannot have a path starting with '//'"
  | colonInFront => "Relative URLs cannot have a path starting with ':'"

/-- The parts of a target in the form that goes over the wire. -/
structure Target where
  scheme : List Char
  credentials : List Char
  host : List Char
  port : Option Int
  path : List Char
  query : Option (List Char)
  fragment : Option (List Char)
deriving DecidableEq, Repr

namespace Target

def maxLength : Nat := 65536

def isControl (c : Char) : Bool := c.toNat < 32 || c.toNat == 127

/-- The characters that a fragment may hold: all that print but blank, double quote, angle brackets
and backquote. -/
def isFragmentSafe (c : Char) : Bool :=
  32 < c.toNat && c.toNat < 127 && !(['"', '<', '>', Char.ofNat 96].contains c)

def isQuerySafe (c : Char) : Bool :=
  32 < c.toNat && c.toNat < 127 && !(['"', '#', '<', '>'].contains c)

def isPathSafe (c : Char) : Bool :=
  isQuerySafe c && !(['?', Char.ofNat 96, '\x7b', '\x7d'].contains c)

def isCredentialSafe (c : Char) : Bool :=
  isPathSafe c && !(['/', ';', '=', '@', '[', '\\', ']', '^', '|'].contains c)

def isHostSafe (c : Char) : Bool :=
  isUnreserved c ||
    ['!', '$', '&', '\'', '(', ')', '*', '+', ',', ';', '=', '"', Char.ofNat 96, '\x7b', '\x7d',
      '%', '|', '\\'].contains c

/-- Whether a host is four numbers with points between them, of any size. -/
def looksLikeIPv4 (host : List Char) : Bool :=
  let parts := Text.splitOnChar '.' host
  parts.length == 4 && parts.all fun part => !part.isEmpty && part.all Char.isDigit

def encodeHost (host : List Char) : Except TargetFault (List Char) :=
  if host.isEmpty then .ok []
  else if looksLikeIPv4 host then
    if isIPv4 host then .ok host else .error (.badIPv4 host)
  else if host.head? == some '[' && host.getLast? == some ']' then
    let address := (host.drop 1).dropLast
    if isIPv6 address then .ok address else .error (.badIPv6 host)
  else if host.all (·.toNat < 128) then .ok (escape isHostSafe (Text.lower host))
  else (HostName.encode (Text.inSmallLetters host)).mapError fun _ => .badName host

def usualPorts : List (String × Int) :=
  [("ftp", 21), ("http", 80), ("https", 443), ("ws", 80), ("wss", 443)]

/-- The port, if it is not the usual one of the scheme. -/
def readPort (scheme port : List Char) : Except TargetFault (Option Int) :=
  if port.isEmpty then .ok none
  else
    match Text.readInteger (String.ofList port) with
    | .error _ => .error (.badPort port)
    | .ok n => .ok (if usualPorts.lookup (String.ofList scheme) = some n then none else some n)

/-- Puts a part on those before it, the last one first: a single point adds nothing, and two points
take the last part away. -/
def addPart (before : List (List Char)) (part : List Char) : List (List Char) :=
  if part == ['.'] then before
  else if part == ['.', '.'] then if before == [[]] then before else before.drop 1
  else part :: before

/-- A path without points. -/
def resolvePath (path : List Char) : List Char :=
  ['/'].intercalate ((Text.splitOnChar '/' path).foldl addPart []).reverse

/-- Credentials, host and port of an authority. -/
def takeAuthority (authority : List Char) : List Char × List Char × List Char :=
  let (credentials, place) := (Text.splitAtLastChar? '@' authority).getD ([], authority)
  let (host, port) :=
    match place.head? == some '[', Text.splitAtLastChar? ']' place with
    | true, some (address, port) => (address ++ [']'], port)
    | _, _ => Text.splitBefore (· == ':') place
  (credentials, host, if port.head? == some ':' then port.drop 1 else port)

/-- Scheme and colon, if they stand in front. The scheme may be empty. -/
def takeFront (url : List Char) : List Char × List Char :=
  match Text.splitAtChar ':' url with
  | (scheme, some rest) => if scheme.isEmpty || isScheme scheme then (scheme, rest) else ([], url)
  | (_, none) => ([], url)

/-- Checks that a path fits behind what stands in front of it. -/
def checkPath (hasScheme hasAuthority : Bool) (path : List Char) : Except TargetFault Unit :=
  if hasAuthority && !path.isEmpty && path.head? != some '/' then .error .pathBesideHost
  else if hasScheme || hasAuthority then .ok ()
  else if path.take 2 == ['/', '/'] then .error .slashesInFront
  else if path.head? == some ':' then .error .colonInFront
  else .ok ()

def checkCharacters (url : List Char) : Except TargetFault Unit :=
  if maxLength < url.length then .error .tooLong
  else
    match url.findIdx? isControl with
    | some position => .error (.control (url.getD position ' ') position)
    | none => .ok ()

def read (url : List Char) : Except TargetFault Target := do
  checkCharacters url
  let (scheme, rest) := takeFront url
  let (authority, rest) := Url.takeAuthority rest
  let (rest, fragment) := Text.splitAtChar '#' rest
  let (path, query) := Text.splitAtChar '?' rest
  let (credentials, host, port) := takeAuthority authority
  let host ← encodeHost host
  let port ← readPort scheme port
  let hasAuthority := !credentials.isEmpty || !host.isEmpty || port.isSome
  checkPath (!scheme.isEmpty) hasAuthority path
  let path := if !scheme.isEmpty || hasAuthority then resolvePath path else path
  .ok {
    scheme := Text.lower scheme
    credentials := escape isCredentialSafe credentials
    host, port
    path := escape isPathSafe path
    query := query.map (escape isQuerySafe)
    fragment := fragment.map (escape isFragmentSafe) }

/-- Whether a target names a place, by a scheme and a host. -/
def isPlaced (target : Target) : Bool := !target.scheme.isEmpty && !target.host.isEmpty

/-- A target that names no place is looked for under the root: one slash is in front of its path. -/
def rooted (target : Target) : Target :=
  if !target.isPlaced then
    ⟨[], [], [], none, '/' :: target.path.dropWhile (· == '/'), target.query, none⟩
  else target

def authority (target : Target) : List Char :=
  (if target.credentials.isEmpty then [] else target.credentials ++ ['@']) ++
    (if target.host.contains ':' then '[' :: target.host ++ [']'] else target.host) ++
    (match target.port with
      | some port => ':' :: (toString port).toList
      | none => [])

def toText (target : Target) : String :=
  String.ofList (
    (if target.scheme.isEmpty then [] else target.scheme ++ [':']) ++
    (if target.authority.isEmpty then [] else '/' :: '/' :: target.authority) ++
    target.path ++
    (match target.query with | some query => '?' :: query | none => []) ++
    (match target.fragment with | some fragment => '#' :: fragment | none => []))

/-- The host in the form that is read. A host is taken for a name that is written in letters, digits
and hyphens if its first label is. -/
def readableHost (target : Target) : Except TargetFault (List Char) :=
  if Label.wireMark.isPrefixOf target.host then
    (HostName.decode target.host).mapError .unreadableName
  else .ok target.host

/-- The user and the password that the credentials name. -/
def userAndPassword (target : Target) : List Char × List Char :=
  let (user, password) := Text.splitAtChar ':' target.credentials
  (unescape user, unescape (password.getD []))

end Target
end MagnetStream.Url
