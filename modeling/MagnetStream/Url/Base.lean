import MagnetStream.Url.Split

/-!
# Base URLs

Every request goes to the service under one base URL. A base URL is absolute and of a web scheme,
and is kept without slashes at its end. A URL that the service reports is moved under the base URL
by replacing its scheme and authority.
-/

namespace MagnetStream.Url

def dropEndSlashes (url : String) : String := Text.dropEndChar '/' url

inductive BaseFault where
  | empty
  | notWeb (url : String)
  | split (fault : SplitFault)
deriving DecidableEq, Repr

def BaseFault.message : BaseFault → String
  | .empty => "base_url must not be empty"
  | .notWeb url => "base_url must be an absolute http(s) URL, got " ++ Text.quoted url
  | .split fault => fault.message

def isWebScheme (scheme : List Char) : Bool :=
  scheme == "http".toList || scheme == "https".toList

/-- Checks a base URL and drops the slashes at its end. -/
def validateBase (url : String) : Except BaseFault String :=
  if url.isEmpty then .error .empty
  else
    match split url.toList with
    | .error fault => .error (.split fault)
    | .ok parts =>
      if isWebScheme parts.scheme && !parts.authority.isEmpty then .ok (dropEndSlashes url)
      else .error (.notWeb url)

inductive MoveFault where
  | notAbsolute (url : String)
  | malformed (url : String)
  | split (fault : SplitFault)
deriving DecidableEq, Repr

def MoveFault.message : MoveFault → String
  | .notAbsolute url => "Not an absolute URL: " ++ Text.quoted url
  | .malformed url => "Malformed URL: " ++ Text.quoted url
  | .split fault => fault.message

/-- Scheme and authority as they stand at the start of a plainly written URL. -/
def origin (parts : Parts) : List Char := parts.scheme ++ "://".toList ++ parts.authority

/-- Moves an absolute URL under a base: its scheme and authority, which must be written without
anything that does not count, give way to the base. -/
def moveUnder (base url : String) : Except MoveFault String :=
  match split url.toList with
  | .error fault => .error (.split fault)
  | .ok parts =>
    if parts.scheme.isEmpty || parts.authority.isEmpty then .error (.notAbsolute url)
    else
      let front := origin parts
      if Text.lower (url.toList.take front.length) == Text.lower front then
        .ok (dropEndSlashes base ++ String.ofList (url.toList.drop front.length))
      else .error (.malformed url)

end MagnetStream.Url
