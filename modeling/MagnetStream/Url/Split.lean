import MagnetStream.Text.Quoted
import MagnetStream.Url.Address

/-!
# The parts of a URL

A URL is cut into scheme, authority, path, query and fragment. Control characters and blanks in
front are skipped, and tabs and line ends are dropped everywhere, before anything is cut. The cut is
purely textual, but an authority with bad brackets is refused, and so is one with a character that
stands for a delimiter in another form.
-/

namespace MagnetStream.Url

/-- The parts of a URL. The scheme is in small letters, and absent parts are empty. -/
structure Parts where
  scheme : List Char
  authority : List Char
  path : List Char
  query : List Char
  fragment : List Char
deriving DecidableEq, Repr

inductive SplitFault where
  | brackets
  | futureAddress
  | ipv4InBrackets
  | noAddress (host : List Char)
  | hiddenDelimiter (authority : List Char)
deriving DecidableEq, Repr

def SplitFault.message : SplitFault → String
  | .brackets => "Invalid IPv6 URL"
  | .futureAddress => "IPvFuture address is invalid"
  | .ipv4InBrackets => "An IPv4 address cannot be in brackets"
  | .noAddress host =>
    Text.quoted (String.ofList host) ++ " does not appear to be an IPv4 or IPv6 address"
  | .hiddenDelimiter authority =>
    "netloc '" ++ String.ofList authority ++
      "' contains invalid characters under NFKC normalization"

/-- Control characters and the blank, which may stand in front of a URL. -/
def isLeading (c : Char) : Bool := c.toNat ≤ 32

/-- Tabs and line ends, which count nowhere in a URL. -/
def isDropped (c : Char) : Bool := c == '\t' || c == '\n' || c == '\r'

/-- What counts of a URL. -/
def cleaned (url : List Char) : List Char :=
  (url.dropWhile isLeading).filter fun c => !isDropped c

/-- The letters A to Z in either case. -/
def isLetter (c : Char) : Bool := ('a' ≤ c && c ≤ 'z') || ('A' ≤ c && c ≤ 'Z')

def isSchemeChar (c : Char) : Bool := isLetter c || c.isDigit || c == '+' || c == '-' || c == '.'

def isScheme (text : List Char) : Bool :=
  match text with
  | [] => false
  | first :: _ => isLetter first && text.all isSchemeChar

/-- Cuts the scheme and its colon off, if there is one. -/
def takeScheme (url : List Char) : List Char × List Char :=
  match Text.splitAtChar ':' url with
  | (scheme, some rest) => if isScheme scheme then (Text.lower scheme, rest) else ([], url)
  | (_, none) => ([], url)

def endsAuthority (c : Char) : Bool := c == '/' || c == '?' || c == '#'

/-- Cuts the authority off, if there is one behind two slashes. -/
def takeAuthority (url : List Char) : List Char × List Char :=
  match url with
  | '/' :: '/' :: rest => Text.splitBefore endsAuthority rest
  | _ => ([], url)

/-- The characters beyond ASCII that stand for one of the delimiters in another form, or for several
characters with a delimiter among them. -/
def hiddenDelimiters : List Nat := [
  8263, 8264, 8265, 8448, 8449, 8453, 8454, 10868, 65043, 65046, 65109, 65110, 65119, 65131, 65283,
  65295, 65306, 65311, 65312]

/-- The text behind the last `@` of an authority, which names host and port. -/
def hostAndPort (authority : List Char) : List Char :=
  match Text.splitAtLastChar? '@' authority with
  | some (_, host) => host
  | none => authority

def checkBracketed (authority : List Char) : Except SplitFault Unit :=
  let host := hostAndPort authority
  match Text.splitAtChar '[' host with
  | (before, some inside) =>
    match Text.splitAtChar ']' inside with
    | (address, after) =>
      let after := after.getD []
      if !before.isEmpty then .error .brackets
      else if !after.isEmpty && after.head? != some ':' then .error .brackets
      else checkAddress address
  | (_, none) => checkAddress (Text.splitAtChar ':' host).1
where
  checkAddress (address : List Char) : Except SplitFault Unit :=
    if address.head? == some 'v' then
      if isFutureAddress address then .ok () else .error .futureAddress
    else if isIPv4 address then .error .ipv4InBrackets
    else if isIPv6 address then .ok ()
    else .error (.noAddress address)

def checkBrackets (authority : List Char) : Except SplitFault Unit :=
  match authority.contains '[', authority.contains ']' with
  | false, false => .ok ()
  | true, true => checkBracketed authority
  | _, _ => .error .brackets

/-- Checks that no character of an authority stands for a delimiter in another form. -/
def checkForms (authority : List Char) : Except SplitFault Unit :=
  if authority.any fun c => hiddenDelimiters.contains c.toNat then
    .error (.hiddenDelimiter authority)
  else .ok ()

def split (url : List Char) : Except SplitFault Parts := do
  let (scheme, rest) := takeScheme (cleaned url)
  let (authority, rest) := takeAuthority rest
  checkBrackets authority
  let (rest, fragment) := Text.splitAtChar '#' rest
  let (path, query) := Text.splitAtChar '?' rest
  checkForms authority
  .ok ⟨scheme, authority, path, query.getD [], fragment.getD []⟩

end MagnetStream.Url
